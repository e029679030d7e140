import DocumentDb.Server.Failure
import DocumentDb.View.Basic

/-!
# Query strings of views

The options of a view query, as they come in a query string. Numbers that cannot be read, and a
limit of zero, give way to the defaults.
-/

namespace DocumentDb.Server

/-- The options of a view query as texts. -/
structure ViewParams where
  descending : Option String
  skip : Option String
  limit : Option String
  includeDocs : Option String
  group : Option String
  reduce : Option String

namespace ViewParams

/-- The options in the pairs of a query string; none may come twice. -/
def ofPairs (pairs : List (String × String)) : Except Failure ViewParams :=
  let option (name : String) : Except Failure (Option String) :=
    match Form.single? pairs name with
    | some value => .ok value
    | none => .error .malformedQuery
  do
    let descending ← option "descending"
    let skip ← option "skip"
    let limit ← option "limit"
    let includeDocs ← option "include_docs"
    let group ← option "group"
    let reduce ← option "reduce"
    return ⟨descending, skip, limit, includeDocs, group, reduce⟩

/-- Whether an option is spelled `true`. -/
def isTrue (text : String) : Bool := text = "true"

/-- The query that the options ask for. -/
def toQuery (params : ViewParams) : ViewQuery where
  descending := params.descending.map isTrue
  skip := (params.skip.bind Text.natural?).getD ViewQuery.default.skip
  limit := ((params.limit.bind Text.natural?).filter (0 < ·)).getD ViewQuery.default.limit
  includeDocs := params.includeDocs.any isTrue
  group := params.group.any isTrue
  reduce := params.reduce.all isTrue

end ViewParams

end DocumentDb.Server
