import DocumentDb.Json.Basic
import DocumentDb.Text.Basic

/-!
# Dotted paths

A path such as `author.name` or `tags.0` is a list of segments. Reading follows fields of objects
and positions of arrays; writing follows fields only and puts an object wherever it finds anything
else on the way.
-/

namespace DocumentDb.Json

/-- The segments of a path: the parts between its points. -/
def segments (path : String) : List String := Text.split '.' path

/-- The item of an array that a segment names by its position. -/
def item? (items : List Json) (segment : String) : Option Json :=
  (Text.natural? segment).bind fun position => items[position]?

/-- The value that a list of segments leads to. -/
def getAt : Json → List String → Option Json
  | value, [] => some value
  | .object fields, segment :: rest => (Fields.value? fields segment).bind (getAt · rest)
  | .array items, segment :: rest => (item? items segment).bind (getAt · rest)
  | _, _ :: _ => none

/-- The value at a path. -/
def get? (value : Json) (path : String) : Option Json := getAt value (segments path)

/-- The fields of an object found on the way of a write; anything else gives way to an empty
object. -/
def objectFields : Option Json → Fields Json
  | some (.object fields) => fields
  | _ => []

/-- Write a value at the end of a list of segments, making the objects on the way. -/
def setAt : Fields Json → List String → Json → Fields Json
  | fields, [], _ => fields
  | fields, [segment], value => Fields.put fields segment value
  | fields, segment :: next :: rest, value =>
    let inner := objectFields (Fields.value? fields segment)
    Fields.put fields segment (.object (setAt inner (next :: rest) value))

/-- Write a value at a path of an object. -/
def set (fields : Fields Json) (path : String) (value : Json) : Fields Json :=
  setAt fields (segments path) value

/-- The object that holds just the given paths of a value; paths that lead nowhere are left out. -/
def project (value : Json) (paths : List String) : Json :=
  .object <| paths.foldl (fun fields path =>
    match value.get? path with
    | some found => set fields path found
    | none => fields) []

end DocumentDb.Json
