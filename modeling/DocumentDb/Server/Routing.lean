import DocumentDb.Server.Resource
import DocumentDb.Server.Sessions

/-!
# Routing

The handler for each resource and method. A resource without a handler for a method does not know
the method.
-/

namespace DocumentDb.Server

open Handler

namespace Endpoint

/-- The same JSON for every request. -/
def showing (value : Json) : Handler := fixed (.json 200 value)

/-- The redirection to the index of the utilities. -/
def redirection : Response := (Response.empty 301).withHeader "location" "/_utils/"

/-- The handler of a method at an endpoint. -/
def handler? : Endpoint → Method → Option Handler
  | welcome, .get => some Handler.welcome
  | up, .get => some (showing Fixed.up)
  | session, .get => some showSession
  | session, .post => some openSession
  | session, .delete => some closeSession
  | allDatabases, .get => some Handler.allDatabases
  | databaseReports, .post => some Handler.databaseReports
  | uuids, .get => some Handler.uuids
  | activeTasks, .get => some (fixed Fixed.unavailable)
  | membership, .get => some (showing Fixed.membership)
  | utilities, .get => some (fixed redirection)
  | utilitiesIndex, .get => some (fixed (.empty 200))
  | icon, .get => some (fixed (.empty 404))
  | clusterSetup, .get => some (showing Fixed.clusterSetup)
  | clusterSetup, .post => some (fixed Fixed.unavailable)
  | databaseUpdates, .get => some (fixed Fixed.unavailable)
  | replicate, .post => some (showing Fixed.replication)
  | analyze, .post => some (showing Fixed.analysis)
  | schedulerJobs, .get => some (showing (Fixed.nothingListed "jobs"))
  | schedulerDocs, .get => some (showing (Fixed.nothingListed "docs"))
  | schedulerDoc, .get => some (fixed Fixed.unavailable)
  | localNode, .get => some (showing Fixed.localNode)
  | requestTimes, .get => some (showing Fixed.requestTimes)
  | system, .get => some (fixed Fixed.unavailable)
  | restart, .post => some (fixed (.empty 200))
  | reshard, .get => some (showing Fixed.reshardSummary)
  | reshardState, .get => some (showing Fixed.reshardState)
  | reshardState, .put => some (fixed (.acknowledged 200))
  | reshardJobs, .get => some (showing (Fixed.nothingListed "jobs"))
  | reshardJobs, .post => some (fixed (.json 201 Fixed.reshardJobs))
  | reshardJob raw, .get => some (Handler.reshardJob raw)
  | reshardJob _, .delete => some (fixed (.acknowledged 200))
  | reshardJobState, .get => some (showing Fixed.reshardState)
  | reshardJobState, .put => some (fixed (.acknowledged 200))
  | _, _ => none

end Endpoint

namespace DatabasePart

/-- The answer to a commit, which has nothing left to do. -/
def committed : Response :=
  .json 202 (.object [("ok", .bool true), ("instance_start_time", .string "0")])

/-- The handler of a method at a part of a database. -/
def handler? (raw : String) : DatabasePart → Method → Option Handler
  | whole, .get => some (showDatabase raw)
  | whole, .put => some (createDatabase raw)
  | whole, .post => some (postDocument raw)
  | whole, .delete => some (dropDatabase raw)
  | listing kind, .get => some (list kind raw)
  | listing kind, .post => some (listKeys kind raw)
  | listingQueries, .post => some (forDatabase raw Fixed.unavailable)
  | bulkDocs, .post => some (Handler.bulkDocs raw)
  | bulkGet, .post => some (Handler.bulkGet raw)
  | find, .post => some (Handler.find raw)
  | indexes, .get => some (listIndexes raw)
  | indexes, .post => some (createIndex raw)
  | index design kind name, .delete => some (deleteIndex raw design kind name)
  | explain, .post => some (forDatabase raw Fixed.unavailable)
  | changes, .get => some (forDatabase raw Fixed.unavailable)
  | revisionDifferences, .post => some (forDatabase raw Fixed.unavailable)
  | shards, .get => some (forDatabase raw (.json 200 Fixed.shards))
  | documentShard id, .get => some (forDatabaseAnd raw id (.json 200 Fixed.documentShard))
  | syncShards, .post => some (forDatabase raw (.acknowledged 200))
  | purge, .post => some (Handler.purge raw)
  | missingRevisions, .post => some (Handler.missingRevisions raw)
  | revisionLimit, .get => some (forDatabase raw (.json 200 Fixed.revisionLimit))
  | revisionLimit, .put => some (forDatabase raw (.acknowledged 200))
  | fullCommit, .post => some (forDatabase raw committed)
  | compact, .post => some (forDatabase raw (.acknowledged 202))
  | compactDesign design, .post => some (forDatabaseAnd raw design (.acknowledged 202))
  | viewCleanup, .post => some (forDatabase raw (.acknowledged 202))
  | security, .get => some (showSecurity raw)
  | security, .put => some (putSecurity raw)
  | localDocument id, .get => some (getLocal raw id)
  | localDocument id, .put => some (putLocal raw id)
  | localDocument id, .delete => some (deleteLocal raw id)
  | localDocument id, .copy => some (copyLocal raw id)
  | localDocument id, _ => some (unavailableAt [raw, id])
  | view design name, .get => some (queryView raw design name)
  | designInfo design, .get => some (showDesign raw design)
  | designDocument id, .get => some (getDesign raw id)
  | designDocument id, .put => some (putDesign raw id)
  | designDocument id, .delete => some (deleteDesign raw id)
  | designDocument id, .copy => some (copyDesign raw id)
  | designDocument id, _ => some (unavailableAt [raw, id])
  | document id, .get => some (getDocument raw id)
  | document id, .put => some (putDocument raw id)
  | document id, .delete => some (deleteDocument raw id)
  | _, _ => none

end DatabasePart

/-- The handler of a method at a resource. -/
def Resource.handler? : Resource → Method → Option Handler
  | server endpoint, method => endpoint.handler? method
  | database raw part, method => part.handler? raw method

/-- The handler of a request, where its path names a resource that knows its method. -/
def Request.handler? (request : Request) : Option Handler :=
  (Resource.ofRequest? request).bind (·.handler? request.method.answeredAs)

end DocumentDb.Server
