import DocumentDb.Fields
import DocumentDb.Number.Basic

/-!
# JSON values

The objects keep their fields in order. A value that may be missing is an `Option Json`; missing is
different from `null`.
-/

namespace DocumentDb

/-- A JSON value. -/
inductive Json
  | null
  | bool (value : Bool)
  | number (value : Number)
  | string (value : String)
  | array (items : List Json)
  | object (fields : List (String × Json))

namespace Json

instance : Inhabited Json := ⟨.null⟩

/-- The integer as a value. -/
def int (n : Int) : Json := .number (.ofInt n)

/-- The natural number as a value. -/
def nat (n : Nat) : Json := int n

/-- The string, or `null` where there is none. -/
def ofString? : Option String → Json
  | some s => .string s
  | none => .null

/-- The array of strings. -/
def strings (items : List String) : Json := .array (items.map .string)

/-- The string in a value that is one. -/
def string? : Json → Option String
  | .string s => some s
  | _ => none

/-- The string in a value that may be missing. -/
theorem bind_string?_eq_some_iff {value? : Option Json} {s : String} :
    value?.bind string? = some s ↔ value? = some (.string s) := by
  cases value? with
  | none => simp
  | some value => cases value <;> simp [string?]

/-- The fields of an object. -/
def fields? : Json → Option (Fields Json)
  | .object fields => some fields
  | _ => none

/-- The value of a field; a value that is no object has no field. -/
def field? : Json → String → Option Json
  | .object fields, key => Fields.value? fields key
  | _, _ => none

/-- Whether the value is an object. -/
def isObject : Json → Bool
  | .object _ => true
  | _ => false

theorem isObject_iff {value : Json} : value.isObject = true ↔ ∃ fields, value = .object fields := by
  cases value <;> simp [isObject]

/-- The kinds of value, in the order in which they sort. -/
inductive Kind
  | null
  | boolean
  | number
  | string
  | array
  | object
deriving DecidableEq

/-- The kind of a value. -/
def kind : Json → Kind
  | .null => .null
  | .bool _ => .boolean
  | .number _ => .number
  | .string _ => .string
  | .array _ => .array
  | .object _ => .object

/-- The place of a kind in the order. -/
def Kind.rank : Kind → Nat
  | .null => 1
  | .boolean => 2
  | .number => 3
  | .string => 4
  | .array => 5
  | .object => 6

/-- The name of a kind. -/
def Kind.name : Kind → String
  | .null => "null"
  | .boolean => "boolean"
  | .number => "number"
  | .string => "string"
  | .array => "array"
  | .object => "object"

end Json

end DocumentDb
