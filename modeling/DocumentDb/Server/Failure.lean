import DocumentDb.Error
import DocumentDb.Server.Message

/-!
# Failures of requests

Why a request was not carried out, and the response that says so. Most failures answer with an error
and a reason in JSON. A request that could not be taken apart is answered in plain text. What a
reader of JSON or of patterns says about the fault in detail is left out of the reason.
-/

namespace DocumentDb.Server

/-- Why a request failed. -/
inductive Failure
  | operation (cause : Error)
  | noDatabase
  | missing
  | deleted
  | indexNotFound
  | missingKey (key : String)
  | keysNotStrings
  | keysNotNames
  | noDestination
  | destinationNotLocal
  | destinationNotDesign
  | unsendableHeader
  | malformedPath
  | malformedQuery
  | bodyNotJson
  | malformedBody
deriving DecidableEq

namespace Failure

/-- An error with its reason. -/
def report (status : Nat) (error reason : String) : Response :=
  .json status (.object [("error", .string error), ("reason", .string reason)])

/-- The response to an operation that failed. -/
def ofError (cause : Error) : Response :=
  match cause.kind with
  | .notFound => report 404 "not_found" cause.detail
  | .conflict => report 409 "conflict" cause.detail
  | .databaseExists =>
    report 412 "file_exists" "The database could not be created, the file already exists."
  | .badSelector | .badRequest | .malformed => report 400 "bad_request" cause.detail
  | .invalidMapFunction => report 400 "compilation_error" cause.detail
  | .unauthorized => report 401 "unauthorized" "You are not a server admin."

/-- The response to a failure. -/
def response : Failure → Response
  | operation cause => ofError cause
  | noDatabase => report 404 "not_found" "Database does not exist."
  | missing => report 404 "not_found" "missing"
  | deleted => report 404 "not_found" "deleted"
  | indexNotFound => report 404 "not_found" "Index not found"
  | missingKey key => report 400 "bad_request" ("Missing required key: " ++ key)
  | keysNotStrings => report 400 "bad_request" "`keys` must be an array of strings"
  | keysNotNames => report 400 "bad_request" "`keys` must be an array of database names"
  | noDestination => report 400 "bad_request" "Destination header is mandatory for COPY."
  | destinationNotLocal =>
    report 400 "bad_request"
      ("Destination of a local document must start with " ++ DocId.localStart)
  | destinationNotDesign =>
    report 400 "bad_request"
      ("Destination of a design document must start with " ++ DocId.designStart)
  | unsendableHeader => .text 500 "failed to parse header value"
  | malformedPath => .text 400 "The path is malformed."
  | malformedQuery => .text 400 "The query string is malformed."
  | bodyNotJson => .text 415 "The body has to be JSON."
  | malformedBody => .text 400 "The body is malformed."

end Failure

/-- The answer to a request: a response, or why it failed. -/
abbrev Answer := Except Failure Response

end DocumentDb.Server
