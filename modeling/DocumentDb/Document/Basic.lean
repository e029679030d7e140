import DocumentDb.Document.Id
import DocumentDb.Document.Uuid
import DocumentDb.Json.Coercion

/-!
# Documents

A document has an id, a revision once it is stored, a mark for deleted documents (tombstones) and a
body. In JSON these are the fields `_id`, `_rev` and `_deleted` around the fields of the body.
-/

namespace DocumentDb

/-! ### Revisions -/

/-- A revision: its generation and a token. -/
structure Revision where
  generation : Nat
  token : String
deriving DecidableEq

namespace Revision

/-- The revision of a new write: generation 1 and random digits. -/
def fresh (stamp : Stamp) : Revision := ⟨1, stamp.token.simple⟩

/-- The revision of every local document. -/
def ofLocal : Revision := ⟨0, "1"⟩

/-- The text of a revision. -/
def text (revision : Revision) : String := toString revision.generation ++ "-" ++ revision.token

end Revision

/-! ### Documents -/

/-- The fields that are no part of a body. -/
def reservedKeys : List String := ["_id", "_rev", "_deleted"]

/-- A document; its body holds none of the reserved fields. -/
structure Document where
  id : String
  revision : Option Revision
  deleted : Bool
  body : Fields Json
  not_reserved : ∀ key ∈ Fields.keys body, key ∉ reservedKeys

namespace Document

/-- The fields that are not reserved. -/
def bodyOf (fields : Fields Json) : Fields Json := fields.filter (·.1 ∉ reservedKeys)

theorem not_reserved_bodyOf (fields : Fields Json) :
    ∀ key ∈ Fields.keys (bodyOf fields), key ∉ reservedKeys := by
  intro key h
  simp only [Fields.keys, bodyOf, List.mem_map, List.mem_filter] at h
  obtain ⟨field, ⟨_, h⟩, rfl⟩ := h
  simpa using h

/-- The document in the fields of an object: the id is empty unless `_id` is a string, `_deleted`
counts by its truth value, and `_rev` is ignored. -/
def ofFields (fields : Fields Json) : Document where
  id := ((Fields.value? fields "_id").bind Json.string?).getD ""
  revision := none
  deleted := Json.truthy (Fields.value? fields "_deleted")
  body := bodyOf fields
  not_reserved := not_reserved_bodyOf fields

/-- The document in a value; only an object holds one. -/
def ofJson? (value : Json) : Option Document := value.fields?.map ofFields

/-- The fields of a document in JSON: `_id`, `_rev` where there is a revision, the body, and
`_deleted` on tombstones. -/
def fields (document : Document) : Fields Json :=
  [("_id", .string document.id)]
    ++ (document.revision.map fun revision => ("_rev", Json.string revision.text)).toList
    ++ document.body
    ++ if document.deleted then [("_deleted", .bool true)] else []

/-- A document in JSON. -/
def toJson (document : Document) : Json := .object document.fields

/-- The text of the revision, empty where there is none. -/
def revisionText (document : Document) : String :=
  (document.revision.map Revision.text).getD ""

/-- Whether the document is a local one. -/
def isLocal (document : Document) : Bool := DocId.isLocal document.id

/-- Whether the document is a design document. -/
def isDesign (document : Document) : Bool := DocId.isDesign document.id

/-- What a write is acknowledged with. -/
def receipt (document : Document) : Json :=
  .object
    [("ok", .bool true), ("id", .string document.id), ("rev", .string document.revisionText)]

end Document

end DocumentDb
