import DocumentDb.Json.Basic

/-!
# Decoding of JSON values

A request value is decoded into a domain type or refused with the cause. A record is an object,
whose other fields are ignored, or an array of the values of its fields in their order. A field is
required, or has a default where it is left out, or is optional, so that `null` stands for none.
-/

namespace DocumentDb

/-- Why a JSON value was refused. -/
inductive DecodeError
  | missingField (name : String)
  | unexpectedKind (expected : String) (found : Json.Kind)
  | notNatural
  | shortRecord (expected : String) (length : Nat)
  | longRecord (expected : String) (length : Nat)
  | noVariant (expected : String)
deriving DecidableEq

/-- The wording of the cause. -/
def DecodeError.message : DecodeError → String
  | missingField name => "missing field `" ++ name ++ "`"
  | unexpectedKind expected found => "invalid type: " ++ found.name ++ ", expected " ++ expected
  | notNatural => "invalid value: expected a natural number"
  | shortRecord expected length =>
    "invalid length " ++ toString length ++ ", expected " ++ expected
  | longRecord expected length => "invalid length " ++ toString length ++ ", expected " ++ expected
  | noVariant expected => "data did not match any variant of " ++ expected

/-- The outcome of decoding. -/
abbrev Decoded (α : Type) := Except DecodeError α

namespace Decode

/-! ### Plain values -/

/-- The value itself. -/
def json (value : Json) : Decoded Json := .ok value

/-- A string. -/
def string : Json → Decoded String
  | .string s => .ok s
  | value => .error (.unexpectedKind "a string" value.kind)

/-- A boolean. -/
def bool : Json → Decoded Bool
  | .bool b => .ok b
  | value => .error (.unexpectedKind "a boolean" value.kind)

/-- A natural number below `2 ^ 64`, which must be spelled as an integer. -/
def natural : Json → Decoded Nat
  | .number (.int n _) => if 0 ≤ n then .ok n.toNat else .error .notNatural
  | value => .error (.unexpectedKind "a natural number" value.kind)

/-- A list of values. -/
def list {α : Type} (item : Json → Decoded α) : Json → Decoded (List α)
  | .array items => items.mapM item
  | value => .error (.unexpectedKind "a sequence" value.kind)

/-- The fields of an object, in order. -/
def fields {α : Type} (item : Json → Decoded α) : Json → Decoded (Fields α)
  | .object members => members.mapM fun member => do
    let value ← item member.2
    return (member.1, value)
  | value => .error (.unexpectedKind "a map" value.kind)

/-! ### Records -/

/-- A record: its fields by name, or by position. -/
inductive Record
  | named (name : String) (members : Fields Json)
  | positional (name : String) (items : List Json)

namespace Record

/-- The record in a value, which has at most the given number of fields. -/
def ofJson (name : String) (size : Nat) : Json → Decoded Record
  | .object members => .ok (.named name members)
  | .array items =>
    if items.length ≤ size then .ok (.positional name items)
    else .error (.longRecord name items.length)
  | value => .error (.unexpectedKind name value.kind)

/-- The value of a field. -/
def field? : Record → Nat → String → Option Json
  | named _ members, _, key => Fields.value? members key
  | positional _ items, position, _ => items[position]?

/-- What is wrong where a field is missing. -/
def missing : Record → String → DecodeError
  | named _ _, key => .missingField key
  | positional name items, _ => .shortRecord name items.length

/-- A field that must be there. -/
def required {α : Type} (record : Record) (position : Nat) (key : String)
    (decode : Json → Decoded α) : Decoded α :=
  match record.field? position key with
  | some value => decode value
  | none => .error (record.missing key)

/-- A field that has a default where it is left out. -/
def defaulted {α : Type} (record : Record) (position : Nat) (key : String) (default : α)
    (decode : Json → Decoded α) : Decoded α :=
  match record.field? position key with
  | some value => decode value
  | none => .ok default

/-- A field that may be left out or `null`. -/
def optional {α : Type} (record : Record) (position : Nat) (key : String)
    (decode : Json → Decoded α) : Decoded (Option α) :=
  match record.field? position key with
  | none | some .null => .ok none
  | some value => (decode value).map some

/-- A field that may be `null`, and left out only where fields have names. -/
def nullable {α : Type} (record : Record) (position : Nat) (key : String)
    (decode : Json → Decoded α) : Decoded (Option α) :=
  match record, record.field? position key with
  | positional _ _, none => .error (record.missing key)
  | _, _ => record.optional position key decode

end Record

end Decode

end DocumentDb
