import DocumentDb.Json.Basic
import DocumentDb.Text.Basic

/-!
# Coercions of JSON values

How a value that may be missing reads as a truth value, as a string and as an integer, and what its
kind is called.
-/

namespace DocumentDb.Json

/-- The name of the kind of a value; a missing value is `undefined`. -/
def typeName : Option Json → String
  | none => "undefined"
  | some value => value.kind.name

/-- Whether a value counts as true: not where it is missing, `null`, `false`, zero or the empty
string. -/
def truthy : Option Json → Bool
  | none | some .null => false
  | some (.bool b) => b
  | some (.number n) => n.toDouble.units != 0
  | some (.string s) => !s.isEmpty
  | some (.array _) | some (.object _) => true

mutual

/-- A value as a string: the items of an array are joined by commas. -/
def text : Json → String
  | .null => "null"
  | .bool b => if b then "true" else "false"
  | .number n => n.text
  | .string s => s
  | .array items => ",".intercalate (itemTexts items)
  | .object _ => "[object Object]"

/-- The items of an array as strings, `null` as the empty one. -/
def itemTexts : List Json → List String
  | [] => []
  | .null :: items => "" :: itemTexts items
  | item :: items => text item :: itemTexts items

end

/-- A value that may be missing as a string. -/
def textOf : Option Json → String
  | none => "undefined"
  | some value => value.text

/-- The signed 64-bit integer that a string starts with, after white space and a sign; `0` where
there is none or it is out of range. -/
def leadingInt (s : String) : Int :=
  let magnitude (cs : List Char) : Int :=
    let n := Text.ofDigits (cs.takeWhile Text.isDigit)
    if (n : Int) ≤ Number.maxInt then n else 0
  match Text.trimLeft s.toList with
  | '-' :: cs => -magnitude cs
  | '+' :: cs => magnitude cs
  | cs => magnitude cs

/-- A value as a signed 64-bit integer; what is neither a number nor a string counts as `0`. -/
def toInt : Json → Int
  | .number n => n.toInt
  | .string s => leadingInt s
  | _ => 0

end DocumentDb.Json
