import DocumentDb.Proofs.Database.Creation
import DocumentDb.Proofs.Database.Deletion
import DocumentDb.Proofs.Server.Handlers
import DocumentDb.Proofs.Server.Reachable

/-!
# Reading back what was written

A write at the path of a document is acknowledged where no regular document has the id. The store
then decides by the id where the document goes, while the handlers of the path look among the
regular documents only. So a document is read back, protected from a second write and deleted at its
path, unless its id is that of a local document: such a document is stored, but the path does not
show it, writes it again and does not delete it.
-/

namespace DocumentDb

/-! ### Ids in paths -/

/-- Only where there are no bytes is nothing decoded. -/
lemma Utf8.decodeFrom_eq_nil_iff {pending : Option Pending} {bytes : List Byte} :
    decodeFrom pending bytes = [] ↔ pending = none ∧ bytes = [] := by
  induction bytes generalizing pending with
  | nil => cases pending <;> simp [decodeFrom]
  | cons byte bytes ih =>
    have hstart : (start byte).1 ++ decodeFrom (start byte).2 bytes ≠ [] := by
      intro h
      obtain ⟨hread, hrest⟩ := List.append_eq_nil_iff.mp h
      have hnone := (ih.mp hrest).1
      revert hread hnone
      unfold start
      split_ifs <;> simp
    cases pending with
    | none => simpa [decodeFrom] using hstart
    | some pending =>
      simp only [decodeFrom, reduceCtorEq, false_and, iff_false]
      split_ifs
      · simp
      · simp [ih]
      · simp

namespace Server

lemma percentDecode_ne_nil {chars : List Char} (h : chars ≠ []) : percentDecode chars ≠ [] := by
  have hencode (c : Char) : Utf8.encode [c] ≠ [] := by simp [Utf8.encode]
  unfold percentDecode
  split
  · split <;> simp [hencode]
  · simp [hencode]
  · exact absurd rfl h

/-- A segment that is not empty does not stand for the empty id. -/
lemma ne_empty_of_segment {raw id : String} (hraw : raw ≠ "") (h : Handler.segment raw = .ok id) :
    id ≠ "" := by
  rintro rfl
  obtain ⟨chars, hchars, hid⟩ := Option.map_eq_some_iff.mp (Handler.segment_eq_ok_iff.mp h)
  obtain rfl : chars = [] := by simpa using hid
  have hdecoded : Utf8.decodeFrom none (percentDecode raw.toList) = [] := by
    cases hread : Utf8.decodeFrom none (percentDecode raw.toList) with
    | nil => rfl
    | cons first rest => simp [hread, List.mapM_cons, Option.bind_eq_some_iff] at hchars
  have hchars : raw.toList ≠ [] := by simpa using hraw
  exact percentDecode_ne_nil hchars (Utf8.decodeFrom_eq_nil_iff.mp hdecoded).2

lemma DatabasePart.eq_singleton_of_document {segments : List String} {rawId : String}
    (h : ofSegments? segments = some (.document rawId)) : segments = [rawId] := by
  unfold ofSegments? at h
  split at h
  all_goals cases h
  rfl

/-- The segment of a document is not empty. -/
lemma Resource.ne_empty_of_document {request : Request} {raw rawId : String}
    (h : ofRequest? request = some (.database raw (.document rawId))) : rawId ≠ "" := by
  rintro rfl
  obtain ⟨segments, -, hresource⟩ := Option.bind_eq_some_iff.mp h
  unfold ofSegments? at hresource
  split at hresource
  · cases hresource
  · rename_i hgap
    split at hresource
    · cases hresource
    · rename_i hendpoint
      cases segments with
      | nil => cases hresource
      | cons first rest =>
        obtain ⟨part, hpart, hdatabase⟩ := Option.map_eq_some_iff.mp hresource
        cases hdatabase
        obtain rfl := DatabasePart.eq_singleton_of_document hpart
        -- The one path with an empty second segment names no document.
        by_cases hfirst : raw = "_utils"
        · rw [hfirst] at hendpoint
          cases hendpoint
        · simp [hasGap, hfirst] at hgap

end Server

/-! ### Writes under an id -/

namespace Document

variable {fields : Fields Json} {id : String}

/-- A body without an `_id` is stored under the id of the call. -/
lemma id_written_of_no_id (hown : Fields.value? fields "_id" = none) (id : String) (stamp : Stamp) :
    (written fields (some id) stamp).id = id := by
  simp [Database.id_written, Database.ownId?, hown]

/-- Without an `_id`, the fields of a body are all but two of the reserved ones. -/
lemma bodyOf_of_no_id (hown : Fields.value? fields "_id" = none) :
    bodyOf fields = fields.filter (·.1 ∉ ["_rev", "_deleted"]) := by
  refine List.filter_congr fun field hfield => ?_
  have hid : field.1 ≠ "_id" := by
    intro hid
    have hkey : "_id" ∈ Fields.keys fields := List.mem_map.mpr ⟨field, hfield, hid⟩
    rw [← Fields.isSome_value?_iff, hown] at hkey
    cases hkey
  simp [reservedKeys, hid]

lemma revision_written_of_no_id (hown : Fields.value? fields "_id" = none) (id : String)
    (stamp : Stamp) :
    (written fields (some id) stamp).revision =
      some (if DocId.isLocal id then .ofLocal else .fresh stamp) := by
  change some (if DocId.isLocal (written fields (some id) stamp).id then _ else _) = _
  rw [id_written_of_no_id hown]

/-- The JSON of a document that is stored under the id of the call. -/
lemma toJson_written (hown : Fields.value? fields "_id" = none)
    (hdeleted : Json.truthy (Fields.value? fields "_deleted") = false) (id : String)
    (stamp : Stamp) :
    (written fields (some id) stamp).toJson = .object
      (("_id", .string id) ::
        ("_rev", .string (if DocId.isLocal id then Revision.ofLocal else .fresh stamp).text) ::
        fields.filter (·.1 ∉ ["_rev", "_deleted"])) := by
  have hbody : (written fields (some id) stamp).body = _ := bodyOf_of_no_id hown
  have hlive : (written fields (some id) stamp).deleted = false := hdeleted
  simp only [toJson, Document.fields, id_written_of_no_id hown, revision_written_of_no_id hown,
    hbody, hlive]
  simp

/-- The receipt of a document that is stored under the id of the call. -/
lemma receipt_written (hown : Fields.value? fields "_id" = none) (id : String) (stamp : Stamp) :
    (written fields (some id) stamp).receipt = .object
      [("ok", .bool true), ("id", .string id),
       ("rev", .string (if DocId.isLocal id then Revision.ofLocal else .fresh stamp).text)] := by
  simp only [receipt, revisionText, id_written_of_no_id hown, revision_written_of_no_id hown]
  rfl

end Document

namespace Database

variable {db : Database} {id : String}

/-- A body without an `_id` is stored where the id of the call is free. -/
lemma createDocument_of_free {fields : Fields Json} (hown : Fields.value? fields "_id" = none)
    (hfree : db.store.documents.contains id = false) (stamp : Stamp) :
    db.createDocument (.object fields) (some id) stamp =
      (.ok (.written fields (some id) stamp), db.keep (.written fields (some id) stamp)) := by
  refine createDocument_eq_ok_iff.mpr ⟨fields, rfl, ?_, rfl, rfl⟩
  simp [requestedId_object, ownId?, hown, hfree]

lemma createDocument_of_taken {body : Json} (hown : body.field? "_id" = none)
    (htaken : db.store.documents.contains id = true) (stamp : Stamp) :
    db.createDocument body (some id) stamp = (.error (.documentExists id), db) := by
  simp [createDocument, requestedId, hown, Option.filter, htaken]

/-- An id that is free has no live document. -/
lemma live?_of_free (h : db.store.documents.contains id = false) : db.store.live? id = none := by
  rw [Store.live?_eq_none_iff]
  intro document hdocument
  rw [Table.contains, hdocument] at h
  cases h

/-- To keep a local document leaves the regular ones as they are. -/
lemma documents_keep_of_isLocal {document : Document} (hlocal : document.isLocal = true)
    (db : Database) : (db.keep document).store.documents = db.store.documents := by
  rw [store_keep, Store.documents_keep, if_pos hlocal]

end Database

namespace Server

/-! ### Requests for a document -/

/-- A request of a method for a document of a database, which may pass. -/
structure Asks (context : Context) (i : Instance) (method : Method) (raw rawId : String) :
    Prop where
  method : context.request.method = method
  resource : Resource.ofRequest? context.request = some (.database raw (.document rawId))
  admitted : context.request.isAdmitted i = true

variable {i : Instance} {context : Context} {raw rawId name id : String} {db : Database}

namespace Asks

lemma serve_of_handler {method : Method} {handler : Handler}
    (h : Asks context i method raw rawId) (hmethod : method ∈ [.get, .put, .delete])
    (hhandler : (DatabasePart.document rawId).handler? raw method = some handler) :
    context.serve i =
      ((handler context i).1.response.signed context.config, (handler context i).2) := by
  have hasked : context.request.handler? = some handler := by
    rw [Request.handler?, h.resource, h.method, Option.bind_some]
    simp only [List.mem_cons, List.not_mem_nil, or_false] at hmethod
    rcases hmethod with rfl | rfl | rfl <;> exact hhandler
  apply Server.serve_of_handler hasked h.admitted
  · rw [h.method]
    rintro rfl
    simp at hmethod
  · rw [h.method]
    rintro rfl
    simp at hmethod

lemma serve_get (h : Asks context i .get raw rawId) :
    context.serve i =
      ((Handler.getDocument raw rawId context i).1.response.signed context.config,
        (Handler.getDocument raw rawId context i).2) :=
  h.serve_of_handler (by simp) rfl

lemma serve_put (h : Asks context i .put raw rawId) :
    context.serve i =
      ((Handler.putDocument raw rawId context i).1.response.signed context.config,
        (Handler.putDocument raw rawId context i).2) :=
  h.serve_of_handler (by simp) rfl

lemma serve_delete (h : Asks context i .delete raw rawId) :
    context.serve i =
      ((Handler.deleteDocument raw rawId context i).1.response.signed context.config,
        (Handler.deleteDocument raw rawId context i).2) :=
  h.serve_of_handler (by simp) rfl

lemma get_of_live (h : Asks context i .get raw rawId) (hnames : Names i raw rawId name id db)
    {document : Document} (hlive : db.store.live? id = some document) :
    (context.serve i).1.status = 200 ∧ (context.serve i).1.body = .json document.toJson ∧
      (context.serve i).2 = i := by
  rw [h.serve_get, Handler.getDocument_of_live hnames hlive,
    status_signed, body_signed]
  exact ⟨rfl, rfl, rfl⟩

lemma get_of_not_live (h : Asks context i .get raw rawId) (hnames : Names i raw rawId name id db)
    (hlive : db.store.live? id = none) : (context.serve i).1.status = 404 := by
  rw [h.serve_get, status_signed]
  exact Handler.status_getDocument_of_not_live hnames hlive

lemma put_of_free {fields : Fields Json} (h : Asks context i .put raw rawId)
    (hnames : Names i raw rawId name id db)
    (hbody : Handler.jsonBody context.request = .ok (.object fields))
    (hown : Fields.value? fields "_id" = none)
    (hfree : db.store.documents.contains id = false) :
    context.serve i =
      ((Handler.receipt 200 (.written fields (some id) context.stamp)).signed context.config,
        i.setDatabase name (db.keep (.written fields (some id) context.stamp))) := by
  rw [h.serve_put, Handler.putDocument_eq hnames hbody,
    Database.createDocument_of_free hown hfree]
  rfl

lemma put_of_taken {body : Json} (h : Asks context i .put raw rawId)
    (hnames : Names i raw rawId name id db) (hbody : Handler.jsonBody context.request = .ok body)
    (hown : body.field? "_id" = none) (htaken : db.store.documents.contains id = true) :
    (context.serve i).1.status = 409 ∧ (context.serve i).2 = i := by
  rw [h.serve_put, Handler.putDocument_eq hnames hbody,
    Database.createDocument_of_taken hown htaken, setDatabase_self hnames.found, status_signed]
  exact ⟨rfl, rfl⟩

lemma delete_of_live (h : Asks context i .delete raw rawId)
    (hnames : Names i raw rawId name id db) {document : Document}
    (hlive : db.store.live? id = some document) :
    (context.serve i).1.status = 200 ∧
      (context.serve i).2 = i.setDatabase name (db.keep (document.tombstone context.stamp)) := by
  rw [h.serve_delete, Handler.deleteDocument_eq hnames,
    Database.deleteDocument_of_live hlive, status_signed]
  simp [Handler.answering, Answer.response, Handler.receipt, Response.json]

lemma delete_of_not_live (h : Asks context i .delete raw rawId)
    (hnames : Names i raw rawId name id db) (hlive : db.store.live? id = none) :
    (context.serve i).1.status = 404 := by
  rw [h.serve_delete, Handler.deleteDocument_eq hnames,
    Database.deleteDocument_of_not_live hlive, status_signed]
  rfl

end Asks

/-- A body in JSON that is an object without an `_id` and without a mark of deletion. -/
lemma exists_body (request : Request)
    (htype : (request.header? "content-type").any isJsonType = true)
    (hread : ((Json.read? request.body).bind Json.fields?).any (fun fields =>
      (Fields.value? fields "_id").isNone && !Json.truthy (Fields.value? fields "_deleted")) =
        true) :
    ∃ fields, Handler.jsonBody request = .ok (.object fields) ∧
      Fields.value? fields "_id" = none ∧
      Json.truthy (Fields.value? fields "_deleted") = false := by
  obtain ⟨fields, hfields, hplain⟩ := (Option.any_eq_true _ _).mp hread
  obtain ⟨body, hbody, hobject⟩ := Option.bind_eq_some_iff.mp hfields
  simp only [Bool.and_eq_true, Option.isNone_iff_eq_none, Bool.not_eq_true'] at hplain
  cases body with
  | null | bool _ | number _ | string _ | array _ => cases hobject
  | object members =>
    cases hobject
    exact ⟨fields, Handler.jsonBody_eq_ok_iff.mpr ⟨htype, hbody⟩, hplain⟩

/-! ### What a write promises -/

/-- At a path a document is read back: it is shown as `document`, it is not written again, and it is
not found any more once it is deleted. -/
structure ReadsBack (i : Instance) (raw rawId : String) (document : Json) : Prop where
  shown : ∀ get, Asks get i .get raw rawId →
    (get.serve i).1.status = 200 ∧ (get.serve i).1.body = .json document ∧ (get.serve i).2 = i
  taken : ∀ put, Asks put i .put raw rawId →
    ∀ body, Handler.jsonBody put.request = .ok body → body.field? "_id" = none →
      (put.serve i).1.status = 409 ∧ (put.serve i).2 = i
  deleted : ∀ delete, Asks delete i .delete raw rawId →
    (delete.serve i).1.status = 200 ∧
      ∀ get, Asks get (delete.serve i).2 .get raw rawId →
        (get.serve (delete.serve i).2).1.status = 404

/-- At a path no document is found: none is shown, one can be written, and none is deleted. -/
structure FindsNothing (i : Instance) (raw rawId : String) : Prop where
  not_shown : ∀ get, Asks get i .get raw rawId → (get.serve i).1.status = 404
  writable : ∀ put, Asks put i .put raw rawId →
    ∀ fields, Handler.jsonBody put.request = .ok (.object fields) →
      Fields.value? fields "_id" = none → (put.serve i).1.status = 200
  not_deleted : ∀ delete, Asks delete i .delete raw rawId → (delete.serve i).1.status = 404

/-- A live document is read back at its path. -/
lemma readsBack_of_live (hnames : Names i raw rawId name id db) (hid : id ≠ "")
    {document : Document} (hlive : db.store.live? id = some document) (hown : document.id = id)
    (hregular : document.isLocal = false) : ReadsBack i raw rawId document.toJson := by
  constructor
  case shown =>
    intro get hget
    exact hget.get_of_live hnames hlive
  case taken =>
    intro put hput body hbody hbodyId
    have htaken : db.store.documents.contains id = true :=
      Table.contains_iff.mpr ⟨document, (Store.live?_eq_some_iff.mp hlive).1⟩
    exact hput.put_of_taken hnames hbody hbodyId htaken
  case deleted =>
    intro delete hdelete
    obtain ⟨hstatus, hafter⟩ := hdelete.delete_of_live hnames hlive
    refine ⟨hstatus, fun get hget => ?_⟩
    rw [hafter] at hget ⊢
    refine hget.get_of_not_live (hnames.setDatabase _) ?_
    -- The tombstone is under the id, as that is not empty.
    have htombstone : (document.tombstone delete.stamp).id = id := by
      rw [Document.id_tombstone, hown, if_neg]
      simpa using hid
    have hstored := Database.get?_keep (Document.isLocal_tombstone hregular delete.stamp) db
    rw [htombstone] at hstored
    rw [Store.live?_eq_none_iff]
    intro other hother
    obtain rfl := Option.some.inj (hstored.symm.trans hother)
    exact Document.deleted_tombstone document delete.stamp

/-- Where an id is free, its path finds nothing. -/
lemma findsNothing_of_free (hnames : Names i raw rawId name id db)
    (hfree : db.store.documents.contains id = false) : FindsNothing i raw rawId := by
  have hlive := Database.live?_of_free hfree
  constructor
  case not_shown =>
    intro get hget
    exact hget.get_of_not_live hnames hlive
  case writable =>
    intro put hput fields hbody hown
    rw [hput.put_of_free hnames hbody hown hfree, status_signed]
    rfl
  case not_deleted =>
    intro delete hdelete
    exact hdelete.delete_of_not_live hnames hlive

/-- A write of a document at its path is acknowledged where no regular document has the id, and its
receipt tells the revision. Unless the id is that of a local document, the document is then read
back at the path. With the id of a local document the path finds nothing, and the document is among
the local ones. -/
theorem put_reads_back (hput : Asks context i .put raw rawId)
    (hnames : Names i raw rawId name id db) {fields : Fields Json}
    (hbody : Handler.jsonBody context.request = .ok (.object fields))
    (hown : Fields.value? fields "_id" = none)
    (hdeleted : Json.truthy (Fields.value? fields "_deleted") = false) :
    ((context.serve i).1.status = 200 ↔ db.store.documents.contains id = false) ∧
    ((context.serve i).1.status = 200 →
      ∃ (revision : Revision) (after : Database),
        (context.serve i).1.body = .json (.object
          [("ok", .bool true), ("id", .string id), ("rev", .string revision.text)]) ∧
        (context.serve i).2 = i.setDatabase name after ∧
        (DocId.isLocal id = false →
          ReadsBack (context.serve i).2 raw rawId (.object
            (("_id", .string id) :: ("_rev", .string revision.text) ::
              fields.filter (·.1 ∉ ["_rev", "_deleted"])))) ∧
        (DocId.isLocal id = true →
          revision = .ofLocal ∧ FindsNothing (context.serve i).2 raw rawId ∧
          after.store.locals.get? id = some (.written fields (some id) context.stamp))) := by
  by_cases hfree : db.store.documents.contains id = false
  · have hserve := hput.put_of_free hnames hbody hown hfree
    have hstatus : (context.serve i).1.status = 200 := by
      rw [hserve, status_signed]
      rfl
    refine ⟨⟨fun _ => hfree, fun _ => hstatus⟩, fun _ => ?_⟩
    have hid := Document.id_written_of_no_id hown id context.stamp
    rw [hserve]
    refine ⟨if DocId.isLocal id then .ofLocal else .fresh context.stamp, _, ?receipt, rfl, ?regular,
      ?misplaced⟩
    case receipt =>
      rw [body_signed, ← Document.receipt_written hown]
      rfl
    case regular =>
      intro hlocal
      have hregular : (Document.written fields (some id) context.stamp).isLocal = false := by
        rw [Document.isLocal, hid, hlocal]
      have hstored := Database.get?_keep hregular db
      rw [hid] at hstored
      have hlive := Store.live?_eq_some_iff.mpr ⟨hstored, hdeleted⟩
      have hne := ne_empty_of_segment (Resource.ne_empty_of_document hput.resource) hnames.document
      rw [← Document.toJson_written hown hdeleted]
      exact readsBack_of_live (hnames.setDatabase _) hne hlive hid hregular
    case misplaced =>
      intro hlocal
      have hwritten : (Document.written fields (some id) context.stamp).isLocal = true := by
        rw [Document.isLocal, hid, hlocal]
      refine ⟨if_pos hlocal, findsNothing_of_free (hnames.setDatabase _) ?_, ?_⟩
      · rw [Database.documents_keep_of_isLocal hwritten]
        exact hfree
      · rw [Database.store_keep, Store.locals_keep, if_pos hwritten, hid, Table.get?_insert,
          if_pos rfl]
  · have htaken : db.store.documents.contains id = true := by simpa using hfree
    have hstatus := (hput.put_of_taken hnames hbody hown htaken).1
    simp [hstatus, htaken]

/-- The document under an id with an encoded slash is read back. -/
theorem put_reads_back_slash :
    let put : Context := ⟨⟨5984, []⟩, ⟨.put, "/db/a%2Fb", [⟨"content-type", "application/json"⟩],
      "\x7b\"v\": 1\x7d"⟩, fun _ => ⟨⟨0⟩, ⟨1⟩⟩⟩
    let i := Instance.empty.authenticate.setDatabase "db" (.new "db")
    ∃ fields, Asks put i .put "db" "a%2Fb" ∧ Names i "db" "a%2Fb" "db" "a/b" (.new "db") ∧
      Handler.jsonBody put.request = .ok (.object fields) ∧ Fields.value? fields "_id" = none ∧
      Json.truthy (Fields.value? fields "_deleted") = false ∧ (put.serve i).1.status = 200 ∧
      ∃ document, ReadsBack (put.serve i).2 "db" "a%2Fb" document := by
  intro put i
  have hput : Asks put i .put "db" "a%2Fb" := ⟨rfl, by decide +kernel, by decide +kernel⟩
  have hnames : Names i "db" "a%2Fb" "db" "a/b" (.new "db") := by
    refine ⟨?_, ?_, ?_⟩
    · exact Handler.segment_eq_ok_iff.mpr (by decide +kernel)
    · exact Handler.segment_eq_ok_iff.mpr (by decide +kernel)
    · exact database?_setDatabase _ "db" (.new "db")
  obtain ⟨fields, hbody, hown, hdeleted⟩ :=
    exists_body put.request (by decide +kernel) (by decide +kernel)
  obtain ⟨hstatus, hread⟩ := put_reads_back hput hnames hbody hown hdeleted
  have hok := hstatus.mpr rfl
  obtain ⟨revision, after, -, -, hregular, -⟩ := hread hok
  exact ⟨fields, hput, hnames, hbody, hown, hdeleted, hok, _, hregular (by decide)⟩

/-- An acknowledged document need not be read back: one with the id of a local document is not found
at its path. -/
theorem not_put_reads_back :
    ¬ ∀ (config : Config) (i : Instance) (put : Context) (raw rawId name id : String)
        (db : Database) (fields : Fields Json), Reachable config i → put.config = config →
      Asks put i .put raw rawId → Names i raw rawId name id db →
      Handler.jsonBody put.request = .ok (.object fields) → Fields.value? fields "_id" = none →
      Json.truthy (Fields.value? fields "_deleted") = false → (put.serve i).1.status = 200 →
      ∃ document, ReadsBack (put.serve i).2 raw rawId document := by
  intro hreads
  let config : Config := ⟨5984, []⟩
  let stamps : Nat → Stamp := fun _ => ⟨⟨0⟩, ⟨1⟩⟩
  let i := served config Instance.empty.authenticate [(⟨.put, "/db", [], ""⟩, stamps)]
  let put : Context := ⟨config, ⟨.put, "/db/_local%2Fx", [⟨"content-type", "application/json"⟩],
    "\x7b\"v\": 1\x7d"⟩, stamps⟩
  let get : Context := ⟨config, ⟨.get, "/db/_local%2Fx", [], ""⟩, stamps⟩
  have hput : Asks put i .put "db" "_local%2Fx" := ⟨rfl, by decide +kernel, by decide +kernel⟩
  have hget : Asks get (put.serve i).2 .get "db" "_local%2Fx" :=
    ⟨rfl, by decide +kernel, by decide +kernel⟩
  have hexists : (i.database? "db").isSome = true := by decide +kernel
  obtain ⟨db, hdb⟩ := Option.isSome_iff_exists.mp hexists
  have hnames : Names i "db" "_local%2Fx" "db" "_local/x" db := by
    refine ⟨?_, ?_, hdb⟩
    · exact Handler.segment_eq_ok_iff.mpr (by decide +kernel)
    · exact Handler.segment_eq_ok_iff.mpr (by decide +kernel)
  obtain ⟨fields, hbody, hown, hdeleted⟩ :=
    exists_body put.request (by decide +kernel) (by decide +kernel)
  have hacknowledged : (put.serve i).1.status = 200 := by decide +kernel
  have hmissing : (get.serve (put.serve i).2).1.status = 404 := by decide +kernel
  obtain ⟨document, hdocument⟩ := hreads config i put _ _ _ _ db fields ⟨_, .inr rfl⟩ rfl hput
    hnames hbody hown hdeleted hacknowledged
  rw [(hdocument.shown get hget).1] at hmissing
  cases hmissing

end Server

end DocumentDb
