import DocumentDb.Document.Id
import DocumentDb.Document.Uuid
import DocumentDb.Find

/-!
# Index definitions

Indexes are declared, listed and deleted; finding documents does not depend on them.
-/

namespace DocumentDb

/-- A request to declare an index. -/
structure IndexRequest where
  fields : List SortField
  filter : Option Json
  design : Option String
  name : Option String
  kind : Option String

namespace IndexRequest

/-- The fields of an index and its filter. -/
def decodeFields (value : Json) : Decoded (List SortField × Option Json) := do
  let record ← Decode.Record.ofJson "index fields" 2 value
  let fields ← record.required 0 "fields" (Decode.list SortField.decode)
  let filter ← record.optional 1 "partial_filter_selector" Decode.json
  return (fields, filter)

/-- The request in a value. -/
def decode (value : Json) : Decoded IndexRequest := do
  let record ← Decode.Record.ofJson "an index" 4 value
  let (fields, filter) ← record.required 0 "index" decodeFields
  let design ← record.optional 1 "ddoc" Decode.string
  let name ← record.optional 2 "name" Decode.string
  let kind ← record.optional 3 "type" Decode.string
  return ⟨fields, filter, design, name, kind⟩

end IndexRequest

/-- A declared index; only the built-in one belongs to no design document. -/
structure IndexDefinition where
  design : Option String
  name : String
  kind : String
  fields : List (Fields String)
  filter : Option Json

namespace IndexDefinition

/-- The index that every database has. -/
def allDocs : IndexDefinition := ⟨none, "_all_docs", "special", [[("_id", "asc")]], none⟩

/-- A sort field as a field with its direction. -/
def fieldOf : SortField → Fields String
  | .name field => [(field, "asc")]
  | .directed fields => fields

/-- The definition that a request declares. A design document or a name that is left out is made
from random digits. -/
def ofRequest (request : IndexRequest) (freshDesign freshName : Uuid) : IndexDefinition where
  design := some (DocId.toDesign (request.design.getD freshDesign.hyphenated))
  name := request.name.getD freshName.hyphenated
  kind := request.kind.getD "json"
  fields := request.fields.map fieldOf
  filter := request.filter

/-- The definition in JSON. -/
def toJson (definition : IndexDefinition) : Json :=
  let fields := definition.fields.map fun field =>
    Json.object (field.map fun entry => (entry.1, .string entry.2))
  .object
    [("ddoc", .ofString? definition.design), ("name", .string definition.name),
     ("type", .string definition.kind),
     ("def", .object <| ("fields", .array fields) ::
       (definition.filter.map fun filter => ("partial_filter_selector", filter)).toList)]

/-- What the declaration is acknowledged with. -/
def receipt (definition : IndexDefinition) : Json :=
  .object
    [("result", .string "created"), ("id", .string (definition.design.getD "")),
     ("name", .string definition.name)]

end IndexDefinition

end DocumentDb
