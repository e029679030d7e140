import DocumentDb.Database.Security
import DocumentDb.Index
import DocumentDb.Store
import DocumentDb.View.Engine

/-!
# Databases

A database holds a document store, the views of its design documents, the declared indexes and the
security object. Every write of regular documents rebuilds all views before it returns.

An operation that may fail answers with its outcome and the database after it.
-/

namespace DocumentDb

/-- A database. -/
structure Database where
  name : String
  store : Store
  views : ViewEngine
  indexes : List IndexDefinition
  security : Security

/-- The outcome of an operation and the database after it. -/
abbrev Outcome (α : Type) := Except Error α × Database

namespace Database

/-- A new database. -/
def new (name : String) : Database := ⟨name, .empty, .empty, [.allDocs], .initial⟩

/-- Rebuild all views from the documents. -/
def rebuild (db : Database) : Database :=
  { db with views := db.views.rebuildAll db.store.documents.values }

/-! ### Documents -/

/-- Store a document in place of any under its id. The `_id` of the body wins over the id given, and
without either a random id is assigned. -/
def addDocument (db : Database) (body : Json) (id : Option String) (stamp : Stamp) :
    Outcome Document :=
  match db.store.add body id stamp with
  | (.error e, store) => (.error e, { db with store })
  | (.ok document, store) =>
    let db := { db with store }
    (.ok document, if document.isLocal then db else db.rebuild)

/-- The id that a body asks for: its own `_id` where that is a string, else the one given. -/
def requestedId (body : Json) (id : Option String) : Option String :=
  ((body.field? "_id").bind Json.string?).orElse fun _ => id

/-- Store a document under an id that no regular document has, not even a tombstone. -/
def createDocument (db : Database) (body : Json) (id : Option String) (stamp : Stamp) :
    Outcome Document :=
  match (requestedId body id).filter db.store.documents.contains with
  | some taken => (.error (.documentExists taken), db)
  | none => db.addDocument body id stamp

/-- Store bodies one after the other, each with the random bits of its position. -/
def storeAll (store : Store) (stamps : Nat → Stamp) :
    List (Json × Nat) → Except Error (List Document) × Store
  | [] => (.ok [], store)
  | (body, position) :: bodies =>
    match store.add body none (stamps position) with
    | (.error e, store) => (.error e, store)
    | (.ok document, store) =>
      let (rest, store) := storeAll store stamps bodies
      (rest.map (document :: ·), store)

/-- Store documents with one rebuild of the views. Nothing is written unless every body is an
object. -/
def addDocuments (db : Database) (bodies : List Json) (stamps : Nat → Stamp) :
    Outcome (List Document) :=
  match bodies.findIdx? (!·.isObject) with
  | some position => (.error (.documentNotObjectAt position), db)
  | none =>
    match storeAll db.store stamps bodies.zipIdx with
    | (.error e, store) => (.error e, { db with store })
    | (.ok documents, store) => (.ok documents, { db with store }.rebuild)

/-- Turn a live document into a tombstone, by storing it again with the mark of deletion. -/
def deleteDocument (db : Database) (id : String) (stamp : Stamp) : Outcome Document :=
  match db.store.live? id with
  | none => (.error (.missingDocument id), db)
  | some document =>
    db.addDocument (.object (Fields.put document.fields "_deleted" (.bool true))) none stamp

/-! ### Local documents -/

/-- The local document of a name or id. -/
def local? (db : Database) (id : String) : Option Document :=
  db.store.locals.get? (DocId.toLocal id)

/-- Store a local document under a name or id, whatever the `_id` of its body. -/
def putLocal (db : Database) (id : String) (body : Json) (stamp : Stamp) : Outcome Document :=
  match body with
  | .object fields =>
    let body := Json.object (Fields.put fields "_id" (.string (DocId.toLocal id)))
    let (outcome, store) := db.store.add body none stamp
    (outcome, { db with store })
  | _ => (.error .documentNotObject, db)

/-- Remove a local document. -/
def deleteLocal (db : Database) (id : String) : Outcome Document :=
  match db.store.removeLocal (DocId.toLocal id) with
  | (some document, store) => (.ok document, { db with store })
  | (none, store) => (.error (.missingLocal (DocId.toLocal id)), { db with store })

/-! ### Design documents -/

/-- The id under which a design document is to be stored. -/
def designIdFor (fields : Fields Json) (id : Option String) : Except Error String :=
  match (Fields.value? fields "_id").bind Json.string?, id with
  | some own, _ => if DocId.isDesign own then .ok own else .error .designIdMisnamed
  | none, some id => .ok (DocId.toDesign id)
  | none, none => .error .designWithoutId

/-- Store a design document and build its views. The `_id` of the body wins over the id or name
given. The views are compiled before anything is stored. -/
def addDesign (db : Database) (body : Json) (id : Option String) (stamp : Stamp) :
    Outcome Document :=
  match body with
  | .object fields =>
    match designIdFor fields id with
    | .error e => (.error e, db)
    | .ok id =>
      let body := Json.object (Fields.put fields "_id" (.string id))
      match DesignDocument.ofJson body >>= db.views.addDesign with
      | .error e => (.error e, db)
      | .ok views =>
        match db.store.putDesign body none stamp with
        | (.error e, store) => (.error e, { db with store, views })
        | (.ok document, store) =>
          (.ok document, { db with store, views := views.rebuild id store.documents.values })
  | _ => (.error .designNotObject, db)

/-- Store a design document under an id that no design document has. -/
def createDesign (db : Database) (body : Json) (id : Option String) (stamp : Stamp) :
    Outcome Document :=
  match (requestedId body (id.map DocId.toDesign)).filter db.store.designs.contains with
  | some taken => (.error (.designExists taken), db)
  | none => db.addDesign body id stamp

/-- Remove a design document together with its views. -/
def deleteDesign (db : Database) (id : String) : Outcome Document :=
  let id := DocId.toDesign id
  match db.store.removeDesign id with
  | (some document, store) =>
    (.ok document, { db with store, views := db.views.removeDesign id })
  | (none, store) => (.error (.missingDesign id), { db with store })

/-- The design document of a name or id. -/
def design? (db : Database) (id : String) : Option Document :=
  db.store.designs.get? (DocId.toDesign id)

/-- Whether a design document is stored under a name or id. -/
def hasDesign (db : Database) (id : String) : Bool := db.store.designs.contains (DocId.toDesign id)

/-! ### Views -/

/-- Whether a design document declares a view. -/
def hasView (db : Database) (design view : String) : Bool :=
  db.views.hasView (DocId.toDesign design) view

/-- Query a view. -/
def view (db : Database) (design view : String) (query : ViewQuery) : Except Error ViewResult :=
  db.views.query (DocId.toDesign design) view query

/-- What is reported of a design document. -/
def designInfo (db : Database) (design : String) : Except Error DesignInfo :=
  match db.views.info? (DocId.toDesign design) with
  | some info => .ok info
  | none => .error (.missingDesign (DocId.toDesign design))

/-- Give a declared view another map function and rebuild the views of its design document. -/
def registerMap (db : Database) (design view : String) (map : RowMap) : Outcome Unit :=
  let id := DocId.toDesign design
  match db.views.registerMap id view map with
  | .error e => (.error e, db)
  | .ok views => (.ok (), { db with views := views.rebuild id db.store.documents.values })

/-! ### Finding and indexes -/

/-- Find among the live documents, in the order of the store. -/
def find (db : Database) (request : FindRequest) : Except Error FindResponse :=
  DocumentDb.find (db.store.liveDocuments.map Document.toJson) request

/-- Put an index in place of the one with the same design document and name, else at the end. -/
def declare (definition : IndexDefinition) : List IndexDefinition → List IndexDefinition
  | [] => [definition]
  | index :: indexes =>
    if index.design = definition.design ∧ index.name = definition.name then definition :: indexes
    else index :: declare definition indexes

/-- Declare an index. -/
def addIndex (db : Database) (request : IndexRequest) (freshDesign freshName : Uuid) :
    IndexDefinition × Database :=
  let definition := IndexDefinition.ofRequest request freshDesign freshName
  (definition, { db with indexes := declare definition db.indexes })

/-- Delete the index of a design document and a name; whether there was one. The built-in index
belongs to no design document and stays. -/
def deleteIndex (db : Database) (design name : String) : Bool × Database :=
  let named (index : IndexDefinition) : Bool :=
    index.design == some (DocId.toDesign design) && index.name == name
  (db.indexes.any named, { db with indexes := db.indexes.filter (!named ·) })

/-! ### Security -/

/-- Put the groups of an update in place of those of the security object. -/
def setSecurity (db : Database) (update : Json) : Outcome Unit :=
  match update with
  | .object fields =>
    match db.security.update fields with
    | .ok security => (.ok (), { db with security })
    | .error cause => (.error (.malformed cause), db)
  | _ => (.error .securityNotObject, db)

end Database

end DocumentDb
