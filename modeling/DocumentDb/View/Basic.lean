import DocumentDb.Error
import DocumentDb.Json.Order

/-!
# Rows of views

A view is read as rows with an id, a key and a value. A query sorts them by key, takes a page and
may attach the documents; the rows of a view that has a reducer may be reduced to totals instead.
-/

namespace DocumentDb

/-- A row: the id of its document, a key, a value, and the document where it is attached. -/
structure ViewRow where
  id : String
  key : Json
  value : Json
  document : Option Json

namespace ViewRow

/-- The row in a value. -/
def decode (value : Json) : Decoded ViewRow := do
  let record ← Decode.Record.ofJson "a view row" 4 value
  let id ← record.required 0 "id" Decode.string
  let key ← record.required 1 "key" Decode.json
  let rowValue ← record.required 2 "value" Decode.json
  let document ← record.nullable 3 "doc" Decode.json
  return ⟨id, key, rowValue, document⟩

/-- The row in JSON. -/
def toJson (row : ViewRow) : Json :=
  .object <|
    [("id", .string row.id), ("key", row.key), ("value", row.value)] ++
      (row.document.map fun document => ("doc", document)).toList

end ViewRow

/-- How a view is queried. Rows keep their order where `descending` is none. -/
structure ViewQuery where
  descending : Option Bool
  skip : Nat
  limit : Nat
  includeDocs : Bool
  group : Bool
  reduce : Bool
deriving DecidableEq

/-- The query that asks for nothing special. -/
def ViewQuery.default : ViewQuery := ⟨none, 0, 20, false, false, true⟩

/-- What a query answers with: a page of rows, or totals under their keys. -/
inductive ViewResult
  | rows (offset : Nat) (rows : List ViewRow)
  | reduced (totals : List (Json × Int))

/-- The result in JSON. -/
def ViewResult.toJson : ViewResult → Json
  | .rows offset page =>
    .object
      [("offset", .nat offset), ("total_rows", .nat page.length),
       ("rows", .array (page.map ViewRow.toJson))]
  | .reduced totals =>
    .object
      [("rows", .array <| totals.map fun total =>
        .object [("key", total.1), ("value", .int total.2)])]

namespace ViewQuery

/-- The rows in the order that the query asks for. -/
def sorted (query : ViewQuery) (rows : List ViewRow) : List ViewRow :=
  match query.descending with
  | some descending => Json.sortByKey descending ViewRow.key rows
  | none => rows

/-- A row with its document only where the query asks for documents. -/
def shown (query : ViewQuery) (row : ViewRow) : ViewRow :=
  if query.includeDocs then row else { row with document := none }

/-- The page of rows that the query asks for. -/
def paginate (query : ViewQuery) (rows : List ViewRow) : ViewResult :=
  .rows query.skip <| (((query.sorted rows).drop query.skip).take query.limit).map query.shown

end ViewQuery

end DocumentDb
