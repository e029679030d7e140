import DocumentDb.Server.Message

/-!
# Fixed answers

The answers of the endpoints for clusters, nodes, replication and resharding, which have nothing
behind them: there is one node, nothing is replicated, and every job looks the same.
-/

namespace DocumentDb.Server.Fixed

/-- The name of the node. -/
def node : String := "node1@127.0.0.1"

/-- The version that the server announces. -/
def version : String := "0.1.0"

/-- What the server calls itself in its responses. -/
def banner : String := "FakeCouch/" ++ version

/-- The text for endpoints without anything behind them. -/
def unavailable : Response := .text 501 "Not Yet Implemented"

/-- The welcome, with random digits. -/
def welcome (digits : String) : Json :=
  .object
    [("couchdb", .string "Welcome"), ("uuid", .string digits), ("git_sha", .string "ff0feea20"),
     ("features", .strings ["access-ready"]),
     ("vendor", .object [("name", .string "FakeCouch")]), ("version", .string version)]

/-- The state of the server. -/
def up : Json := .object [("status", .string "ok")]

/-- The nodes of the cluster. -/
def membership : Json :=
  .object [("all_nodes", .strings [node]), ("cluster_nodes", .strings [node])]

/-- The state of the cluster. -/
def clusterSetup : Json := .object [("state", .string "cluster_disabled")]

/-- A list without entries, under the given name. -/
def nothingListed (name : String) : Json :=
  .object [(name, .array []), ("offset", .nat 0), ("total_rows", .nat 0)]

/-- The name of the local node. -/
def localNode : Json := .object [("name", .string node)]

/-- The statistics of the local node: an empty histogram. -/
def requestTimes : Json :=
  let zeros := ["min", "max", "arithmetic_mean", "geometric_mean", "harmonic_mean", "median",
    "variance", "standard_deviation", "skewness", "kurtosis"]
  let percentiles := [50, 75, 90, 95, 99, 999]
  .object
    [("value", .object <|
       (zeros.map fun name => (name, Json.nat 0)) ++
         [("percentile", .array (percentiles.map fun p => .array [.nat p, .nat 0])),
          ("histogram", .array [.array [.nat 0, .nat 0]]), ("n", .nat 0)]),
     ("type", .string "histogram"),
     ("desc", .string "length of a request inside CouchDB without MochiWeb")]

/-- The outcome of an analysis. -/
def analysis : Json := .object [("tokens", .strings ["run"])]

/-- The report on one run of a replication. -/
def replicationRun (documents lastSeq startSeq : Nat) (session started : String) : Json :=
  .object
    [("doc_write_failures", .nat 0), ("docs_read", .nat documents),
     ("docs_written", .nat documents), ("end_last_seq", .nat lastSeq),
     ("end_time", .string started), ("missing_checked", .nat documents),
     ("missing_found", .nat documents), ("recorded_seq", .nat lastSeq),
     ("session_id", .string session), ("start_last_seq", .nat startSeq),
     ("start_time", .string started)]

/-- The report on a replication that is finished. -/
def replication : Json :=
  let session := "142a35854a08e205c47174d91b1f9628"
  .object
    [("history", .array
       [replicationRun 10 28 1 session "Sun, 11 Aug 2013 20:38:50 GMT",
        replicationRun 1 1 0 "6314f35c51de3ac408af79d6ee0c1a09" "Sat, 10 Aug 2013 15:41:54 GMT"]),
     ("ok", .bool true), ("replication_id_version", .nat 3), ("session_id", .string session),
     ("source_last_seq", .nat 28)]

/-! ### Resharding -/

/-- The report on all jobs. -/
def reshardSummary : Json :=
  .object
    [("completed", .nat 21), ("failed", .nat 0), ("running", .nat 3), ("state", .string "running"),
     ("state_reason", .null), ("stopped", .nat 0), ("total", .nat 24)]

/-- The state of resharding and of each job. -/
def reshardState : Json := .object [("reason", .null), ("state", .string "running")]

/-- The jobs that a request for resharding creates: one for each node. -/
def reshardJobs : Json :=
  let job (id node : String) : Json :=
    .object
      [("ok", .bool true), ("id", .string id), ("node", .string node),
       ("shard", .string "shards/80000000-ffffffff/db3.1554148353")]
  .array
    [job "001-30d7848a6feeb826d5e3ea5bb7773d672af226fd34fd84a8fb1ca736285df557" node,
     job "001-c2d734360b4cb3ff8b3feaccb2d787bf81ce2e773489eddd985ddd01d9de8e01"
       "node2@127.0.0.1"]

/-- The report on a job. -/
def reshardJob (id : String) : Json :=
  let entry (detail : Json) (time kind : String) : Json :=
    .object [("detail", detail), ("timestamp", .string time), ("type", .string kind)]
  .object
    [("id", .string id), ("job_state", .string "completed"), ("node", .string node),
     ("source", .string "shards/00000000-1fffffff/d1.1553786862"),
     ("split_state", .string "completed"), ("start_time", .string "2019-03-28T15:28:02Z"),
     ("state_info", .object []),
     ("target", .strings
       ["shards/00000000-0fffffff/d1.1553786862", "shards/10000000-1fffffff/d1.1553786862"]),
     ("type", .string "split"), ("update_time", .string "2019-03-28T15:28:08Z"),
     ("history", .array
       [entry .null "2019-03-28T15:28:02Z" "new",
        entry (.string "initial_copy") "2019-03-28T15:28:02Z" "running"])]

/-! ### Shards -/

/-- The shards of a database: two ranges. -/
def shards : Json :=
  let host := Json.strings ["couchdb@node1.example.com"]
  .object
    [("shards", .object [("00000000-1fffffff", host), ("20000000-3fffffff", host)])]

/-- The shard of a document. -/
def documentShard : Json :=
  .object [("range", .string "e0000000-ffffffff"), ("nodes", .strings [node])]

/-- The limit on the number of revisions. -/
def revisionLimit : Json := .nat 1000

end DocumentDb.Server.Fixed
