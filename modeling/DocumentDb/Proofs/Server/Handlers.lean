import DocumentDb.Proofs.Store.Writes
import DocumentDb.Server.Service

/-!
# What handlers answer

A request that can be taken apart reaches the database that it names. The equations say what the
handlers of single documents do from there on, and how an answer becomes the response of the server.
-/

namespace DocumentDb.Server

/-! ### Databases of an instance -/

lemma database?_setDatabase (i : Instance) (name : String) (db : Database) :
    (i.setDatabase name db).database? name = some db := by
  rw [Instance.database?, Instance.setDatabase, Table.get?_insert, if_pos rfl]

/-- To put a database back where it was found changes nothing. -/
lemma setDatabase_self {i : Instance} {name : String} {db : Database}
    (h : i.database? name = some db) : i.setDatabase name db = i := by
  rw [Instance.setDatabase, Table.insert_eq_self h]

/-! ### Paths of documents -/

/-- Two segments that stand for the name of a database and the id of a document. -/
structure Names (i : Instance) (raw rawId name id : String) (db : Database) : Prop where
  database : Handler.segment raw = .ok name
  document : Handler.segment rawId = .ok id
  found : i.database? name = some db

/-- The segments stand for the same in an instance with a changed database. -/
lemma Names.setDatabase {i : Instance} {raw rawId name id : String} {db : Database}
    (h : Names i raw rawId name id db) (after : Database) :
    Names (i.setDatabase name after) raw rawId name id after :=
  ⟨h.database, h.document, database?_setDatabase i name after⟩

/-! ### Handlers of documents -/

namespace Handler

lemma segment_eq_ok_iff {raw decoded : String} :
    segment raw = .ok decoded ↔ decodeSegment? raw = some decoded := by
  unfold segment
  cases decodeSegment? raw <;> simp

lemma jsonBody_eq_ok_iff {request : Request} {body : Json} :
    jsonBody request = .ok body ↔
      (request.header? "content-type").any isJsonType = true ∧
        Json.read? request.body = some body := by
  unfold jsonBody
  cases (request.header? "content-type").any isJsonType with
  | false => simp
  | true => cases Json.read? request.body <;> simp

section

variable {raw rawId name id : String} {context : Context} {i : Instance} {db : Database}

lemma taking_ok {α : Type} {take : Request → Except Failure α} {next : α → Handler} {taken : α}
    (h : take context.request = .ok taken) : taking take next context i = next taken context i := by
  simp only [taking, h]

lemma readingDatabase_some {answer : Context → Database → Answer}
    (hdb : i.database? name = some db) :
    readingDatabase name answer context i = (answer context db, i) := by
  simp only [readingDatabase, reading, hdb]

lemma changingDatabase_some {act : Context → Database → Answer × Database}
    (hdb : i.database? name = some db) :
    changingDatabase name act context i =
      ((act context db).1, i.setDatabase name (act context db).2) := by
  simp only [changingDatabase, hdb]

/-- Two segments that can be decoded are taken from a path. -/
lemma segments_ok (hnames : Names i raw rawId name id db) :
    (do return (← segment raw, ← segment rawId)) = Except.ok (name, id) := by
  rw [hnames.database, hnames.document]
  rfl

lemma getDocument_eq (hnames : Names i raw rawId name id db) :
    getDocument raw rawId context i =
      (match db.store.documents.get? id with
        | some document =>
          if document.deleted then .error .deleted else .ok (.json 200 document.toJson)
        | none => .error .missing, i) := by
  rw [getDocument, taking_ok (segments_ok hnames)]
  exact readingDatabase_some hnames.found

/-- A live document is shown. -/
lemma getDocument_of_live {document : Document} (hnames : Names i raw rawId name id db)
    (h : db.store.live? id = some document) :
    getDocument raw rawId context i = (.ok (.json 200 document.toJson), i) := by
  obtain ⟨hdocument, hdeleted⟩ := Store.live?_eq_some_iff.mp h
  simp only [getDocument_eq hnames, hdocument, hdeleted, Bool.false_eq_true, if_false]

/-- An id without a live document is not found. -/
lemma status_getDocument_of_not_live (hnames : Names i raw rawId name id db)
    (h : db.store.live? id = none) :
    (getDocument raw rawId context i).1.response.status = 404 := by
  rw [getDocument_eq hnames]
  cases hdocument : db.store.documents.get? id with
  | none => rfl
  | some document =>
    simp only [Store.live?_eq_none_iff.mp h document hdocument, if_true]
    rfl

lemma putDocument_eq {body : Json} (hnames : Names i raw rawId name id db)
    (hbody : jsonBody context.request = .ok body) :
    putDocument raw rawId context i =
      (answering (receipt 200) (db.createDocument body (some id) context.stamp).1,
        i.setDatabase name (db.createDocument body (some id) context.stamp).2) := by
  have htake : (do return (← segment raw, ← segment rawId, ← jsonBody context.request)) =
      Except.ok (name, id, body) := by
    rw [hnames.database, hnames.document, hbody]
    rfl
  rw [putDocument, taking_ok htake]
  exact changingDatabase_some hnames.found

lemma deleteDocument_eq (hnames : Names i raw rawId name id db) :
    deleteDocument raw rawId context i =
      (answering (receipt 200) (db.deleteDocument id context.stamp).1,
        i.setDatabase name (db.deleteDocument id context.stamp).2) := by
  rw [deleteDocument, taking_ok (segments_ok hnames)]
  exact changingDatabase_some hnames.found

end

end Handler

/-! ### Responses -/

/-- The server adds header fields to a response and changes nothing else. -/
lemma exists_signed_eq (response : Response) (config : Config) :
    ∃ headers, response.signed config = { response with headers } := by
  unfold Response.signed Response.withHeaders
  induction config.extraHeaders ++ _ generalizing response with
  | nil => exact ⟨response.headers, rfl⟩
  | cons field fields ih => exact ih _

@[simp] lemma status_signed (response : Response) (config : Config) :
    (response.signed config).status = response.status := by
  obtain ⟨headers, h⟩ := exists_signed_eq response config
  rw [h]

@[simp] lemma body_signed (response : Response) (config : Config) :
    (response.signed config).body = response.body := by
  obtain ⟨headers, h⟩ := exists_signed_eq response config
  rw [h]

/-- The status of a response is that of the answer. -/
lemma status_serve {context : Context} (i : Instance) (h : context.request.method ≠ .options) :
    (context.serve i).1.status = (context.handle i).1.status := by
  have hstatus (response : Response) :
      (if context.request.method = .head then response.withoutBody else response).status =
        response.status := by
    split <;> rfl
  simp only [Context.serve, if_neg h, status_signed, hstatus]

/-- A request that may pass is answered by its handler. -/
lemma serve_of_handler {context : Context} {i : Instance} {handler : Handler}
    (hhandler : context.request.handler? = some handler)
    (hadmitted : context.request.isAdmitted i = true) (hoptions : context.request.method ≠ .options)
    (hhead : context.request.method ≠ .head) :
    context.serve i =
      ((handler context i).1.response.signed context.config, (handler context i).2) := by
  simp only [Context.serve, Context.handle, hhandler, hadmitted, hoptions, hhead, if_true, if_false]

end DocumentDb.Server
