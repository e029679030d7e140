import DocumentDb.Error
import DocumentDb.Selector.Matching

/-!
# Finding documents

A request selects documents, sorts them by one field, takes a page of them, and reduces them to some
of their fields.
-/

namespace DocumentDb

/-- An entry of a sort order: the name of a field, or fields with directions. -/
inductive SortField
  | name (field : String)
  | directed (fields : Fields String)

namespace SortField

/-- The sort field in a value. -/
def decode : Json → Decoded SortField
  | .string field => .ok (name field)
  | value =>
    match Decode.fields Decode.string value with
    | .ok fields => .ok (directed fields)
    | .error _ => .error (.noVariant "a sort field")

/-- The field to sort by and whether to sort downwards: of several fields the first counts. Every
direction but `desc` is upwards. -/
def direction? : SortField → Option (String × Bool)
  | name field => some (field, false)
  | directed [] => none
  | directed ((field, direction) :: _) => some (field, direction == "desc")

end SortField

/-- A request to find documents. -/
structure FindRequest where
  selector : Json
  limit : Nat
  skip : Nat
  fields : List String
  sort : List SortField
  wantsStats : Bool

namespace FindRequest

/-- The limit where none is given. -/
def defaultLimit : Nat := 25

/-- The request for the documents that a selector describes. -/
def ofSelector (selector : Json) : FindRequest := ⟨selector, defaultLimit, 0, [], [], false⟩

/-- The request in a value. -/
def decode (value : Json) : Decoded FindRequest := do
  let record ← Decode.Record.ofJson "a find request" 6 value
  let selector ← record.required 0 "selector" Decode.json
  let limit ← record.defaulted 1 "limit" defaultLimit Decode.natural
  let skip ← record.defaulted 2 "skip" 0 Decode.natural
  let fields ← record.defaulted 3 "fields" [] (Decode.list Decode.string)
  let sort ← record.defaulted 4 "sort" [] (Decode.list SortField.decode)
  let wantsStats ← record.defaulted 5 "execution_stats" false Decode.bool
  return ⟨selector, limit, skip, fields, sort, wantsStats⟩

end FindRequest

/-- What was found, and how many documents were looked at where the request asks for it. -/
structure FindResponse where
  documents : List Json
  examined : Option Nat

namespace FindResponse

/-- The response in JSON. No index is used and no time is measured. -/
def toJson (response : FindResponse) : Json :=
  let stats (examined : Nat) : Json :=
    .object
      [("total_keys_examined", .nat 0), ("total_docs_examined", .nat examined),
       ("total_quorum_docs_examined", .nat 0),
       ("results_returned", .nat response.documents.length), ("execution_time_ms", .nat 0)]
  .object <| ("docs", .array response.documents) ::
    (response.examined.map fun examined => ("execution_stats", stats examined)).toList

end FindResponse

/-- Sort documents by the first entry of a sort order; what is missing sorts as `null`. -/
def sortDocuments (sort : List SortField) (documents : List Json) : List Json :=
  match sort.head?.bind SortField.direction? with
  | some (field, descending) =>
    Json.sortByKey descending (fun document => (document.get? field).getD .null) documents
  | none => documents

/-- Find documents among those given. -/
def find (documents : List Json) (request : FindRequest) : Except Error FindResponse :=
  match Selector.ofJson request.selector with
  | .error cause => .error (.selector cause)
  | .ok selector =>
    let matching := (selector.narrow documents.zipIdx).map Prod.fst
    let page := ((sortDocuments request.sort matching).drop request.skip).take request.limit
    let shown := if request.fields.isEmpty then page else page.map (·.project request.fields)
    .ok ⟨shown, if request.wantsStats then some documents.length else none⟩

end DocumentDb
