import DocumentDb.Instance
import DocumentDb.Server.Failure
import DocumentDb.Server.ViewParams

/-!
# Handlers

A handler answers a request at an instance and says what the instance is afterwards. It first takes
from the request what it needs: the segments of the path, the options of the query, the body. A
request from which this cannot be taken fails before the instance is looked at.
-/

namespace DocumentDb.Server

/-- How the server is set up: the port that locations name, and header fields for every response. -/
structure Config where
  port : Nat
  extraHeaders : List HeaderField

/-- What a handler is given besides the instance: the request, the set-up, and random bits. -/
structure Context where
  config : Config
  request : Request
  stamps : Nat → Stamp

/-- The random bits for a single write. -/
def Context.stamp (context : Context) : Stamp := context.stamps 0

/-- A handler of a request. -/
abbrev Handler := Context → Instance → Answer × Instance

namespace Handler

/-! ### Taking a request apart -/

/-- A segment of the path, decoded. -/
def segment (raw : String) : Except Failure String :=
  match decodeSegment? raw with
  | some segment => .ok segment
  | none => .error .malformedPath

/-- The body in JSON, which the content type has to announce. -/
def jsonBody (request : Request) : Except Failure Json :=
  if !(request.header? "content-type").any isJsonType then .error .bodyNotJson
  else
    match Json.read? request.body with
    | some value => .ok value
    | none => .error .malformedBody

/-- The options of a view query. -/
def viewQuery (request : Request) : Except Failure ViewQuery :=
  (ViewParams.ofPairs (Form.pairs request.query)).map ViewParams.toQuery

/-- A decoded value of a body. -/
def decoded {α : Type} (value : Decoded α) : Except Failure α :=
  value.mapError fun cause => .operation (.malformed cause)

/-! ### Building handlers -/

/-- Answer without looking at anything. -/
def fixed (response : Response) : Handler := fun _ i => (.ok response, i)

/-- Answer from the instance, leaving it as it is. -/
def reading (answer : Context → Instance → Answer) : Handler :=
  fun context i => (answer context i, i)

/-- Take from the request what is needed, and go on with it. -/
def taking {α : Type} (take : Request → Except Failure α) (next : α → Handler) : Handler :=
  fun context i =>
    match take context.request with
    | .error failure => (.error failure, i)
    | .ok taken => next taken context i

/-- Answer from a database, leaving it as it is. -/
def readingDatabase (name : String) (answer : Context → Database → Answer) : Handler :=
  reading fun context i =>
    match i.database? name with
    | none => .error .noDatabase
    | some db => answer context db

/-- Answer from a database and change it. -/
def changingDatabase (name : String) (act : Context → Database → Answer × Database) : Handler :=
  fun context i =>
    match i.database? name with
    | none => (.error .noDatabase, i)
    | some db =>
      let (answer, db) := act context db
      (answer, i.setDatabase name db)

/-- The same answer for every database that exists. -/
def forDatabase (raw : String) (response : Response) : Handler :=
  taking (fun _ => segment raw) fun name => readingDatabase name fun _ _ => .ok response

/-- The same answer for every database that exists and everything in it. -/
def forDatabaseAnd (raw rawId : String) (response : Response) : Handler :=
  taking (fun _ => return (← segment raw, ← segment rawId)) fun (name, _) =>
    readingDatabase name fun _ _ => .ok response

/-- The answer to an operation of the database. -/
def answering {α : Type} (respond : α → Response) : Except Error α → Answer
  | .ok value => .ok (respond value)
  | .error cause => .error (.operation cause)

/-- The answer to an operation that may have changed the database. -/
def answered {α : Type} (respond : α → Response) (outcome : Outcome α) : Answer × Database :=
  (answering respond outcome.1, outcome.2)

/-- The response that acknowledges a write. -/
def receipt (status : Nat) (document : Document) : Response := .json status document.receipt

end Handler

end DocumentDb.Server
