import DocumentDb.Server.Fixed
import DocumentDb.Server.Handler

/-!
# Databases and documents

Handlers for a database, its documents and its local documents.
-/

namespace DocumentDb.Server.Handler

/-! ### Databases -/

/-- Report on a database. -/
def showDatabase (raw : String) : Handler :=
  taking (fun _ => segment raw) fun name => readingDatabase name fun _ db => .ok (.json 200 db.info)

/-- Make a database. -/
def createDatabase (raw : String) : Handler :=
  taking (fun _ => segment raw) fun name _ i =>
    let (outcome, i) := i.createDatabase name
    (answering (fun _ => .acknowledged 201) outcome, i)

/-- Drop a database. -/
def dropDatabase (raw : String) : Handler :=
  taking (fun _ => segment raw) fun name _ i =>
    match i.deleteDatabase name with
    | (.ok _, i) => (.ok (.acknowledged 200), i)
    | (.error _, i) => (.error .noDatabase, i)

/-! ### Documents -/

/-- Where a new document is to be found. -/
def locationOf (config : Config) (database id : String) : String :=
  "http://localhost:" ++ toString config.port ++ "/" ++ database ++ "/" ++ id

/-- The answer to a new document: its receipt and its location. -/
def created (config : Config) (database : String) (document : Document) : Answer :=
  let location := locationOf config database document.id
  if isSendable location then .ok ((receipt 201 document).withHeader "location" location)
  else .error .unsendableHeader

/-- Create the document in the body. -/
def postDocument (raw : String) : Handler :=
  taking (fun request => return (← segment raw, ← jsonBody request)) fun (name, body) =>
    changingDatabase name fun context db =>
      match db.createDocument body none context.stamp with
      | (.ok document, db) => (created context.config name document, db)
      | (.error cause, db) => (.error (.operation cause), db)

/-- Show a live document. -/
def getDocument (raw rawId : String) : Handler :=
  taking (fun _ => return (← segment raw, ← segment rawId)) fun (name, id) =>
    readingDatabase name fun _ db =>
      match db.store.documents.get? id with
      | some document =>
        if document.deleted then .error .deleted else .ok (.json 200 document.toJson)
      | none => .error .missing

/-- Create the document in the body under the id of the path. -/
def putDocument (raw rawId : String) : Handler :=
  taking (fun request => return (← segment raw, ← segment rawId, ← jsonBody request))
    fun (name, id, body) => changingDatabase name fun context db =>
      answered (receipt 200) (db.createDocument body (some id) context.stamp)

/-- Turn a document into a tombstone. -/
def deleteDocument (raw rawId : String) : Handler :=
  taking (fun _ => return (← segment raw, ← segment rawId)) fun (name, id) =>
    changingDatabase name fun context db =>
      answered (receipt 200) (db.deleteDocument id context.stamp)

/-! ### Many documents -/

/-- The documents in the body of a bulk request. -/
def bulkItems {α : Type} (item : Json → Decoded α) (value : Json) : Decoded (List α) := do
  let record ← Decode.Record.ofJson "a bulk request" 1 value
  record.required 0 "docs" (Decode.list item)

/-- Store the documents in the body. -/
def bulkDocs (raw : String) : Handler :=
  taking
    (fun request => do
      let name ← segment raw
      let body ← jsonBody request
      return (name, ← decoded (bulkItems Decode.json body)))
    fun (name, bodies) => changingDatabase name fun context db =>
      answered (fun documents => .json 201 (.array (documents.map Document.receipt)))
        (db.addDocuments bodies context.stamps)

/-- The id in an item of a bulk request. -/
def itemId (value : Json) : Decoded String := do
  let record ← Decode.Record.ofJson "an item" 1 value
  record.required 0 "id" Decode.string

/-- What is shown of an id in a bulk request. -/
def bulkEntry (db : Database) (id : String) : Json :=
  let entry := match db.store.live? id with
    | some document => Json.object [("ok", document.toJson)]
    | none =>
      .object
        [("error", .object
          [("id", .string id), ("rev", .string "undefined"), ("error", .string "not_found"),
           ("reason", .string "missing")])]
  .object [("id", .string id), ("docs", .array [entry])]

/-- Show the documents that the body names. -/
def bulkGet (raw : String) : Handler :=
  taking
    (fun request => do
      let name ← segment raw
      let body ← jsonBody request
      return (name, ← decoded (bulkItems itemId body)))
    fun (name, ids) => readingDatabase name fun _ db =>
      .ok (.json 200 (.object [("results", .array (ids.map (bulkEntry db)))]))

/-! ### Revisions -/

/-- The revisions in a body, by id. -/
def revisionsById (value : Json) : Decoded (Fields (List String)) :=
  Decode.fields (Decode.list Decode.string) value

/-- Answer about revisions, of which none is kept: for each id with some of those that the body
gives. -/
def revisions (raw : String) (shown : List String → List String) (respond : Json → Response) :
    Handler :=
  taking (fun request => return (← segment raw, ← jsonBody request)) fun (name, body) =>
    readingDatabase name fun _ _ =>
      (decoded (revisionsById body)).map fun byId =>
        respond (.object (byId.map fun entry => (entry.1, .strings (shown entry.2))))

/-- Report the last revision given for each id as purged. -/
def purge (raw : String) : Handler :=
  revisions raw (fun revisions => revisions.getLast?.toList) fun purged =>
    .json 201 (.object [("purge_seq", .null), ("purged", purged)])

/-- Report the first revision given for each id as missing. -/
def missingRevisions (raw : String) : Handler :=
  revisions raw (·.take 1) fun missing => .json 200 (.object [("missing_revs", missing)])

/-! ### Local documents -/

/-- Show a local document. -/
def getLocal (raw rawId : String) : Handler :=
  taking (fun _ => return (← segment raw, ← segment rawId)) fun (name, id) =>
    readingDatabase name fun _ db =>
      match db.local? id with
      | some document => .ok (.json 200 document.toJson)
      | none => .error .missing

/-- Store a local document, in place of any of its id. -/
def putLocal (raw rawId : String) : Handler :=
  taking (fun request => return (← segment raw, ← segment rawId, ← jsonBody request))
    fun (name, id, body) => changingDatabase name fun context db =>
      answered (receipt 201) (db.putLocal id body context.stamp)

/-- Remove a local document. -/
def deleteLocal (raw rawId : String) : Handler :=
  taking (fun _ => return (← segment raw, ← segment rawId)) fun (name, id) =>
    changingDatabase name fun _ db => answered (receipt 200) (db.deleteLocal id)

/-- The id that a copy is to get. -/
def destination (request : Request) : Except Failure String :=
  match (request.plainHeader? "destination").map Text.trimmed with
  | some id => if id.isEmpty then .error .noDestination else .ok id
  | none => .error .noDestination

/-- Copy a local document to another local id that is free. -/
def copyLocal (raw rawId : String) : Handler :=
  taking
    (fun request => do
      let name ← segment raw
      let id ← segment rawId
      let copy ← destination request
      if DocId.isLocal copy then return (name, id, copy) else .error .destinationNotLocal)
    fun (name, id, copy) => changingDatabase name fun context db =>
      match db.local? id with
      | none => (.error .missing, db)
      | some document =>
        if (db.local? copy).isSome then (.error (.operation (.documentExists copy)), db)
        else answered (receipt 201) (db.putLocal copy (.object document.body) context.stamp)

/-- What no other method of a document does. -/
def unavailableAt (segments : List String) : Handler :=
  taking (fun _ => segments.mapM segment) fun _ => fixed Fixed.unavailable

end DocumentDb.Server.Handler
