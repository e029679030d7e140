import DocumentDb.Json.Coercion
import DocumentDb.View.Basic

/-!
# Reducers

A reducer turns rows into a total: their number, or the sum of their values read as integers. Totals
stay within the signed 64-bit integers.
-/

namespace DocumentDb

/-- The built-in reducers. -/
inductive Reducer
  | count
  | sum
deriving DecidableEq

namespace Reducer

/-- The reducer of a name; no name means no reducer. -/
def ofName : Option String → Except Error (Option Reducer)
  | none => .ok none
  | some "_count" => .ok (some count)
  | some "_sum" => .ok (some sum)
  | some other => .error (.unsupportedReduce other)

/-- The name of a reducer. -/
def name : Reducer → String
  | count => "_count"
  | sum => "_sum"

/-- What a row adds to its total. -/
def share (reducer : Reducer) (row : ViewRow) : Int :=
  match reducer with
  | count => 1
  | sum => row.value.toInt

/-- Add to a total, staying within the signed 64-bit integers. -/
def addTo (total share : Int) : Int := Number.clamp (total + share)

/-- The total of all rows. -/
def total (reducer : Option Reducer) (rows : List ViewRow) : Int :=
  match reducer with
  | none => 0
  | some count => rows.length
  | some sum => rows.foldl (fun total row => addTo total row.value.toInt) 0

/-- Add a share under a key: to the total of an equal key, or as a new total at the end. -/
def addUnder : List (Json × Int) → Json → Int → List (Json × Int)
  | [], key, share => [(key, share)]
  | (k, total) :: totals, key, share =>
    if k.deepEqual key then (k, addTo total share) :: totals
    else (k, total) :: addUnder totals key share

/-- The totals of the rows by key, in the order in which the keys first come. -/
def totals (reducer : Reducer) (rows : List ViewRow) : List (Json × Int) :=
  rows.foldl (fun totals row => addUnder totals row.key (reducer.share row)) []

end Reducer

end DocumentDb
