import DocumentDb.Server.Queries

/-!
# Resources

What a path names: something of the server, or a database and something in it. The segments of the
path stay encoded, since an encoded slash is part of a name. Fixed segments win over names, and no
name is empty.
-/

namespace DocumentDb.Server

/-- A resource that belongs to no database. -/
inductive Endpoint
  | welcome
  | up
  | session
  | allDatabases
  | databaseReports
  | uuids
  | activeTasks
  | membership
  | utilities
  | utilitiesIndex
  | icon
  | clusterSetup
  | databaseUpdates
  | replicate
  | analyze
  | schedulerJobs
  | schedulerDocs
  | schedulerDoc
  | localNode
  | requestTimes
  | system
  | restart
  | reshard
  | reshardState
  | reshardJobs
  | reshardJob (raw : String)
  | reshardJobState
deriving DecidableEq

namespace Endpoint

/-- The endpoint that segments name. -/
def ofSegments? : List String → Option Endpoint
  | [""] => some welcome
  | ["_up"] => some up
  | ["_session"] => some session
  | ["_all_dbs"] => some allDatabases
  | ["_dbs_info"] => some databaseReports
  | ["_uuids"] => some uuids
  | ["_active_tasks"] => some activeTasks
  | ["_membership"] => some membership
  | ["_utils"] => some utilities
  | ["_utils", ""] => some utilitiesIndex
  | ["favicon.ico"] => some icon
  | ["_cluster_setup"] => some clusterSetup
  | ["_db_updates"] => some databaseUpdates
  | ["_replicate"] => some replicate
  | ["_search_analyze"] => some analyze
  | ["_scheduler", "jobs"] => some schedulerJobs
  | ["_scheduler", "docs"] => some schedulerDocs
  | ["_scheduler", "docs", _] => some schedulerDoc
  | ["_scheduler", "docs", _, _] => some schedulerDoc
  | ["_node", "_local"] => some localNode
  | ["_node", "_local", "_stats", "couchdb", "request_time"] => some requestTimes
  | ["_node", "_local", "_system"] => some system
  | ["_node", _, "_restart"] => some restart
  | ["_reshard"] => some reshard
  | ["_reshard", "state"] => some reshardState
  | ["_reshard", "jobs"] => some reshardJobs
  | ["_reshard", "jobs", id] => some (reshardJob id)
  | ["_reshard", "jobs", _, "state"] => some reshardJobState
  | _ => none

end Endpoint

/-- A resource in a database. -/
inductive DatabasePart
  | whole
  | listing (listing : Handler.Listing)
  | listingQueries
  | bulkDocs
  | bulkGet
  | find
  | indexes
  | index (rawDesign rawKind rawName : String)
  | explain
  | changes
  | revisionDifferences
  | shards
  | documentShard (rawId : String)
  | syncShards
  | purge
  | missingRevisions
  | revisionLimit
  | fullCommit
  | compact
  | compactDesign (rawDesign : String)
  | viewCleanup
  | security
  | localDocument (rawId : String)
  | view (rawDesign rawName : String)
  | designInfo (rawDesign : String)
  | designDocument (rawDesign : String)
  | document (rawId : String)
deriving DecidableEq

namespace DatabasePart

/-- The part of a database that the segments behind its name stand for. -/
def ofSegments? : List String → Option DatabasePart
  | [] => some whole
  | ["_all_docs"] => some (listing .regular)
  | ["_design_docs"] => some (listing .designs)
  | ["_local_docs"] => some (listing .locals)
  | ["_all_docs", "queries"] => some listingQueries
  | ["_bulk_docs"] => some bulkDocs
  | ["_bulk_get"] => some bulkGet
  | ["_find"] => some find
  | ["_index"] => some indexes
  | ["_index", design, kind, name] => some (index design kind name)
  | ["_index", "_design", design, kind, name] => some (index design kind name)
  | ["_explain"] => some explain
  | ["_changes"] => some changes
  | ["_revs_diff"] => some revisionDifferences
  | ["_shards"] => some shards
  | ["_shards", id] => some (documentShard id)
  | ["_sync_shards"] => some syncShards
  | ["_purge"] => some purge
  | ["_missing_revs"] => some missingRevisions
  | ["_revs_limit"] => some revisionLimit
  | ["_purged_infos_limit"] => some revisionLimit
  | ["_ensure_full_commit"] => some fullCommit
  | ["_compact"] => some compact
  | ["_compact", design] => some (compactDesign design)
  | ["_view_cleanup"] => some viewCleanup
  | ["_security"] => some security
  | ["_local", id] => some (localDocument id)
  | ["_design", design, "_view", name] => some (view design name)
  | ["_design", design, "_info"] => some (designInfo design)
  | ["_design", design] => some (designDocument design)
  | [id] => some (document id)
  | _ => none

end DatabasePart

/-- What a path names. -/
inductive Resource
  | server (endpoint : Endpoint)
  | database (raw : String) (part : DatabasePart)
deriving DecidableEq

namespace Resource

/-- Whether a segment is empty that may not be: only the root and the index of the utilities have
one. -/
def hasGap (segments : List String) : Bool :=
  segments.any String.isEmpty && segments != [""] && segments != ["_utils", ""]

/-- The resource that segments name. -/
def ofSegments? (segments : List String) : Option Resource :=
  if hasGap segments then none
  else
    match Endpoint.ofSegments? segments with
    | some endpoint => some (.server endpoint)
    | none =>
      match segments with
      | [] => none
      | raw :: rest => (DatabasePart.ofSegments? rest).map (.database raw)

/-- The resource of a request. -/
def ofRequest? (request : Request) : Option Resource := request.segments?.bind ofSegments?

end Resource

end DocumentDb.Server
