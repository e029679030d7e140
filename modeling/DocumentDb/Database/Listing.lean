import DocumentDb.Database.Basic

/-!
# Listings and reports of a database

The regular, design and local documents are listed as rows with the id as key and the revision as
value: all of them in the order of the store, or those of given keys in the order of the keys.
-/

namespace DocumentDb

namespace Document

/-- The row of a document in a listing. -/
def row (document : Document) : ViewRow :=
  ⟨document.id, .string document.id, .object [("rev", .string document.revisionText)],
    some document.toJson⟩

end Document

namespace Database

/-- List the live regular documents; keys without one are skipped. -/
def allDocs (db : Database) (query : ViewQuery) (keys : Option (List String)) : ViewResult :=
  let documents := match keys with
    | some keys => keys.filterMap db.store.live?
    | none => db.store.liveDocuments
  query.paginate (documents.map Document.row)

/-- List the design documents; keys are names or ids. -/
def designDocs (db : Database) (query : ViewQuery) (keys : Option (List String)) : ViewResult :=
  let documents := match keys with
    | some keys => keys.filterMap db.design?
    | none => db.store.designs.values
  query.paginate (documents.map Document.row)

/-- List the local documents; keys are names or ids. -/
def localDocs (db : Database) (query : ViewQuery) (keys : Option (List String)) : ViewResult :=
  let documents := match keys with
    | some keys => keys.filterMap db.local?
    | none => db.store.locals.values
  query.paginate (documents.map Document.row)

/-- The report on a database: its counters, and figures that never change. -/
def info (db : Database) : Json :=
  .object
    [("db_name", .string db.name), ("update_seq", .string "52232"),
     ("sizes", .object
       [("file", .nat 1178613587), ("external", .nat 1713103872), ("active", .nat 1162451555)]),
     ("purge_seq", .nat 0), ("doc_del_count", .nat db.store.deletedWrites),
     ("doc_count", .nat db.store.liveWrites), ("disk_format_version", .nat 6),
     ("compact_running", .bool false),
     ("cluster", .object [("q", .nat 1), ("n", .nat 1), ("w", .nat 1), ("r", .nat 1)]),
     ("instance_start_time", .string "0")]

end Database

end DocumentDb
