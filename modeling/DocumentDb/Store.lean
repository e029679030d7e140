import DocumentDb.Document.Basic
import DocumentDb.Error
import DocumentDb.Table

/-!
# The document store

A store keeps the regular, the local and the design documents of a database apart, each under its
id, and counts the writes of regular documents. There is no history: a write replaces what is stored
under its id.

An operation that may fail answers with its outcome and the store after it.
-/

namespace DocumentDb

/-- The documents of a database. The counters count the writes of live documents and of tombstones.
Here they count without end; a counter of 64 bits would part from them after `2 ^ 64` writes. -/
structure Store where
  documents : Table Document
  locals : Table Document
  designs : Table Document
  liveWrites : Nat
  deletedWrites : Nat

namespace Store

/-- The store without documents. -/
def empty : Store := ⟨.empty, .empty, .empty, 0, 0⟩

/-! ### Writes -/

/-- The id under which a document is stored: its own, else the one given, else a random one. -/
def resolvedId (document : Document) (id : Option String) (stamp : Stamp) : String :=
  if document.id.isEmpty then id.getD stamp.id.hyphenated else document.id

/-- Keep a local document, which has a fixed revision. -/
def putLocal (store : Store) (document : Document) : Document × Store :=
  let document := { document with revision := some .ofLocal }
  (document, { store with locals := store.locals.insert document.id document })

/-- Keep a regular document under a new revision, and count the write. -/
def putRegular (store : Store) (document : Document) (stamp : Stamp) : Document × Store :=
  let document := { document with revision := some (.fresh stamp) }
  (document,
    { store with
      documents := store.documents.insert document.id document
      liveWrites := store.liveWrites + if document.deleted then 0 else 1
      deletedWrites := store.deletedWrites + if document.deleted then 1 else 0 })

/-- Store the document in a body, among the local documents where its id says so, else among the
regular ones. -/
def add (store : Store) (body : Json) (id : Option String) (stamp : Stamp) :
    Except Error Document × Store :=
  match Document.ofJson? body with
  | none => (.error .documentNotObject, store)
  | some document =>
    let document := { document with id := resolvedId document id stamp }
    let (stored, store) :=
      if document.isLocal then store.putLocal document else store.putRegular document stamp
    (.ok stored, store)

/-- Store the design document in a body. -/
def putDesign (store : Store) (body : Json) (id : Option String) (stamp : Stamp) :
    Except Error Document × Store :=
  match Document.ofJson? body with
  | none => (.error .documentNotObject, store)
  | some document =>
    let document := { document with id := if document.id.isEmpty then id.getD "" else document.id }
    if document.isDesign then
      let document := { document with revision := some (.fresh stamp) }
      (.ok document, { store with designs := store.designs.insert document.id document })
    else (.error .designIdMisnamed, store)

/-- Remove a design document; the answer is what was stored. -/
def removeDesign (store : Store) (id : String) : Option Document × Store :=
  (store.designs.get? id, { store with designs := store.designs.erase id })

/-- Remove a local document; the answer is what was stored. -/
def removeLocal (store : Store) (id : String) : Option Document × Store :=
  (store.locals.get? id, { store with locals := store.locals.erase id })

/-! ### Reads -/

/-- The regular documents that are no tombstones, in order. -/
def liveDocuments (store : Store) : List Document :=
  store.documents.values.filter (!·.deleted)

/-- The regular document under an id, tombstones left out. -/
def live? (store : Store) (id : String) : Option Document :=
  (store.documents.get? id).filter (!·.deleted)

end Store

end DocumentDb
