import DocumentDb.Server.Documents

/-!
# Designs, views, queries and settings

Handlers for design documents and their views, for the listings of documents, for finding documents,
for indexes and for the security object.
-/

namespace DocumentDb.Server.Handler

/-! ### Design documents -/

/-- Show a design document. -/
def getDesign (raw rawId : String) : Handler :=
  taking (fun _ => return (← segment raw, ← segment rawId)) fun (name, id) =>
    readingDatabase name fun _ db =>
      match db.design? id with
      | some document => .ok (.json 200 document.toJson)
      | none => .error .missing

/-- Create the design document in the body. -/
def putDesign (raw rawId : String) : Handler :=
  taking (fun request => return (← segment raw, ← segment rawId, ← jsonBody request))
    fun (name, id, body) => changingDatabase name fun context db =>
      answered (receipt 200) (db.createDesign body (some id) context.stamp)

/-- Remove a design document and its views. -/
def deleteDesign (raw rawId : String) : Handler :=
  taking (fun _ => return (← segment raw, ← segment rawId)) fun (name, id) =>
    changingDatabase name fun _ db =>
      match db.deleteDesign id with
      | (.ok document, db) => (.ok (receipt 200 document), db)
      | (.error _, db) => (.error .missing, db)

/-- Copy a design document to another design id that is free. -/
def copyDesign (raw rawId : String) : Handler :=
  taking
    (fun request => do
      let name ← segment raw
      let id ← segment rawId
      let copy ← destination request
      if DocId.isDesign copy then return (name, id, copy) else .error .destinationNotDesign)
    fun (name, id, copy) => changingDatabase name fun context db =>
      match db.design? id with
      | none => (.error .missing, db)
      | some document =>
        answered (receipt 201) (db.createDesign (.object document.body) (some copy) context.stamp)

/-- Query a view. -/
def queryView (raw rawDesign rawView : String) : Handler :=
  taking
    (fun request =>
      return (← segment raw, ← segment rawDesign, ← segment rawView, ← viewQuery request))
    fun (name, design, view, query) => readingDatabase name fun _ db =>
      answering (fun result => .json 200 result.toJson) (db.view design view query)

/-- Report on a design document. -/
def showDesign (raw rawDesign : String) : Handler :=
  taking (fun _ => return (← segment raw, ← segment rawDesign)) fun (name, design) =>
    readingDatabase name fun _ db =>
      answering (fun info => .json 200 info.toJson) (db.designInfo design)

/-! ### Listings -/

/-- The documents of a database that can be listed. -/
inductive Listing
  | regular
  | designs
  | locals
deriving DecidableEq

/-- The rows of a listing. -/
def Listing.rows (listing : Listing) (db : Database) (query : ViewQuery)
    (keys : Option (List String)) : ViewResult :=
  match listing with
  | regular => db.allDocs query keys
  | designs => db.designDocs query keys
  | locals => db.localDocs query keys

/-- List all documents. -/
def list (listing : Listing) (raw : String) : Handler :=
  taking (fun request => return (← segment raw, ← viewQuery request)) fun (name, query) =>
    readingDatabase name fun _ db => .ok (.json 200 (listing.rows db query none).toJson)

/-- The keys in a body, where it has any. -/
def bodyKeys (body : Json) : Except Failure (Option (List String)) :=
  match body.field? "keys" with
  | none => .ok none
  | some keys =>
    match Decode.list Decode.string keys with
    | .ok keys => .ok (some keys)
    | .error _ => .error .keysNotStrings

/-- List the documents of the keys in the body. -/
def listKeys (listing : Listing) (raw : String) : Handler :=
  taking
    (fun request => do
      let name ← segment raw
      let query ← viewQuery request
      let body ← jsonBody request
      return (name, query, ← bodyKeys body))
    fun (name, query, keys) => readingDatabase name fun _ db =>
      .ok (.json 200 (listing.rows db query keys).toJson)

/-! ### Finding and indexes -/

/-- The request in a body that must have a key. -/
def requestWith {α : Type} (key : String) (decode : Json → Decoded α) (body : Json) :
    Except Failure α :=
  if (body.field? key).isNone then .error (.missingKey key) else decoded (decode body)

/-- Find documents. -/
def find (raw : String) : Handler :=
  taking (fun request => return (← segment raw, ← jsonBody request)) fun (name, body) =>
    readingDatabase name fun _ db =>
      match requestWith "selector" FindRequest.decode body with
      | .error failure => .error failure
      | .ok request => answering (fun found => .json 200 found.toJson) (db.find request)

/-- List the indexes. -/
def listIndexes (raw : String) : Handler :=
  taking (fun _ => segment raw) fun name => readingDatabase name fun _ db =>
    .ok <| .json 200 <| .object
      [("total_rows", .nat db.indexes.length),
       ("indexes", .array (db.indexes.map IndexDefinition.toJson))]

/-- Declare an index. -/
def createIndex (raw : String) : Handler :=
  taking (fun request => return (← segment raw, ← jsonBody request)) fun (name, body) =>
    changingDatabase name fun context db =>
      match requestWith "index" IndexRequest.decode body with
      | .error failure => (.error failure, db)
      | .ok request =>
        let (definition, db) := db.addIndex request context.stamp.id context.stamp.token
        (.ok (.json 200 definition.receipt), db)

/-- Delete an index; its type does not count. -/
def deleteIndex (raw rawDesign rawKind rawName : String) : Handler :=
  taking
    (fun _ => do
      let name ← segment raw
      let design ← segment rawDesign
      let _ ← segment rawKind
      return (name, design, ← segment rawName))
    fun (name, design, index) => changingDatabase name fun _ db =>
      let (found, db) := db.deleteIndex design index
      (if found then .ok (.acknowledged 200) else .error .indexNotFound, db)

/-! ### Security -/

/-- Show the security object. -/
def showSecurity (raw : String) : Handler :=
  taking (fun _ => segment raw) fun name =>
    readingDatabase name fun _ db => .ok (.json 200 db.security.toJson)

/-- Change the security object. -/
def putSecurity (raw : String) : Handler :=
  taking (fun request => return (← segment raw, ← jsonBody request)) fun (name, body) =>
    changingDatabase name fun _ db =>
      answered (fun _ => .acknowledged 200) (db.setSecurity body)

end DocumentDb.Server.Handler
