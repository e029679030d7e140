import DocumentDb.Proofs.Document.RoundTrip
import DocumentDb.Proofs.View.Programs

/-!
# Deletion of documents

A live document is deleted by rendering it, marking it as deleted and storing it again. The write
finds the same id and the same namespace, so a tombstone with the body of the document takes its
place, and nothing else of the database changes but the rows of the document, which leave the views.
-/

namespace DocumentDb

/-! ### Tombstones -/

namespace Document

/-- A tombstone has the body of the document. -/
lemma body_tombstone (document : Document) (stamp : Stamp) :
    (document.tombstone stamp).body = document.body :=
  (bodyOf_put document.fields (by decide) (.bool true)).trans document.bodyOf_fields

/-- A tombstone of a regular document has a new revision. -/
lemma revision_tombstone {document : Document} (h : document.isLocal = false) (stamp : Stamp) :
    (document.tombstone stamp).revision = some (.fresh stamp) := by
  have hlocal := isLocal_tombstone h stamp
  show some (if (document.tombstone stamp).isLocal then Revision.ofLocal else .fresh stamp) = _
  rw [hlocal, if_neg Bool.false_ne_true]

end Document

/-! ### What is left of the others -/

/-- Of a write, values that are left out in the end show no more than the removal of the key. -/
lemma Fields.filter_put {α : Type} {fields : Fields α} (h : (keys fields).Nodup) {key : String}
    {value : α} {p : α → Bool} (hvalue : p value = false) :
    ((put fields key value).map Prod.snd).filter p =
      ((drop fields key).map Prod.snd).filter p := by
  induction fields with
  | nil => simp [put, drop, hvalue]
  | cons field rest ih =>
    obtain ⟨k, v⟩ := field
    rw [keys_cons, List.nodup_cons] at h
    by_cases hkey : key = k
    · subst hkey
      have hdrop : drop ((key, v) :: rest) key = rest := by
        have hnone : value? rest key = none := by
          rw [← Option.not_isSome_iff_eq_none, isSome_value?_iff]
          exact h.1
        simpa [drop] using drop_eq_self hnone
      rw [put, if_pos rfl, hdrop, List.map_cons, List.filter_cons_of_neg]
      simp [hvalue]
    · have hdrop : drop ((k, v) :: rest) key = (k, v) :: drop rest key := by
        simp [drop, Ne.symm hkey]
      rw [put, if_neg hkey, hdrop, List.map_cons, List.map_cons, List.filter_cons,
        List.filter_cons, ih h.2]

namespace Store

/-- A tombstone takes the place of the live document of its id. -/
lemma liveDocuments_keep_of_deleted {store : Store} (h : store.Regular) {tomb : Document}
    (hlocal : tomb.isLocal = false) (hdeleted : tomb.deleted = true) :
    (store.keep tomb).liveDocuments = store.liveDocuments.filter (·.id ≠ tomb.id) := by
  have hids : ((Fields.drop store.documents.entries tomb.id).map Prod.snd) =
      store.documents.values.filter (·.id ≠ tomb.id) := by
    rw [Table.values, Fields.drop, List.filter_map]
    refine congrArg (List.map Prod.snd) (List.filter_congr fun entry hentry => ?_)
    have hentry := (Fields.value?_eq_some_iff store.documents.nodup).mpr hentry
    simp [(h entry.1 entry.2 hentry).1]
  rw [liveDocuments, documents_keep, hlocal, if_neg Bool.false_ne_true, Table.values, Table.insert,
    Fields.filter_put store.documents.nodup (by simp [hdeleted]), hids, liveDocuments,
    List.filter_filter, List.filter_filter]
  exact List.filter_congr fun _ _ => Bool.and_comm _ _

end Store

namespace ViewProgram

/-- A row has the id of a document that it is emitted for. -/
lemma id_of_mem_rows {program : ViewProgram} {documents : List Document} {row : ViewRow}
    (h : row ∈ program.rows documents) : ∃ document ∈ documents, row.id = document.id := by
  obtain ⟨document, hdocument, hrow⟩ := List.mem_flatMap.mp h
  obtain ⟨emitted, -, rfl⟩ := List.mem_map.mp hrow
  exact ⟨document, hdocument, rfl⟩

/-- Without the documents of an id there are no rows of the id, and all others. -/
lemma rows_filter (program : ViewProgram) (documents : List Document) (id : String) :
    program.rows (documents.filter (·.id ≠ id)) = (program.rows documents).filter (·.id ≠ id) := by
  induction documents with
  | nil => rfl
  | cons document documents ih =>
    have hown : ∀ row ∈ program.rows [document], row.id = document.id := by
      intro row hrow
      simpa using id_of_mem_rows hrow
    have hrows (others : List Document) : program.rows (document :: others) =
        program.rows [document] ++ program.rows others := by
      simp [rows]
    rw [hrows, List.filter_append, ← ih]
    by_cases hid : document.id = id
    · have hnone : (program.rows [document]).filter (·.id ≠ id) = [] := by
        apply List.filter_eq_nil_iff.mpr
        intro row hrow
        simp [hown row hrow, hid]
      rw [List.filter_cons_of_neg (by simpa using hid), hnone, List.nil_append]
    · have hall : (program.rows [document]).filter (·.id ≠ id) = program.rows [document] := by
        apply List.filter_eq_self.mpr
        intro row hrow
        simpa [hown row hrow] using hid
      rw [List.filter_cons_of_pos (by simpa using hid), hrows, hall]

end ViewProgram

namespace Database

variable {db : Database} {id : String}

/-- A regular document is kept among the regular documents. -/
lemma documents_keep_of_not_isLocal {document : Document} (hlocal : document.isLocal = false)
    (db : Database) :
    (db.keep document).store.documents = db.store.documents.insert document.id document := by
  rw [store_keep, Store.documents_keep, hlocal, if_neg Bool.false_ne_true]

/-- A regular document that is kept is under its id. -/
lemma get?_keep {document : Document} (hlocal : document.isLocal = false) (db : Database) :
    (db.keep document).store.documents.get? document.id = some document := by
  rw [documents_keep_of_not_isLocal hlocal, Table.get?_insert, if_pos rfl]

/-- The views of a reachable database are up to date with some programs. -/
lemma Reachable.exists_upToDate (h : db.Reachable) : ∃ programs, db.UpToDate programs := by
  obtain ⟨name, operations, rfl⟩ := h
  exact ⟨_, (UpToDate.init name).run operations⟩

/-- A tombstone takes the rows of its id out of the views. -/
lemma rows_keep_of_deleted (hdb : db.Reachable) {tomb : Document} (hlocal : tomb.isLocal = false)
    (hdeleted : tomb.deleted = true) (design name : String) :
    ((db.keep tomb).views.view? design name).map View.rows =
      (db.views.view? design name).map fun view => view.rows.filter (·.id ≠ tomb.id) := by
  obtain ⟨programs, hprograms⟩ := hdb.exists_upToDate
  rw [(hprograms.keep tomb).views, hprograms.views, Option.map_map, Option.map_map, store_keep,
    Store.liveDocuments_keep_of_deleted hprograms.regular hlocal hdeleted]
  cases programs design name with
  | none => rfl
  | some program => exact congrArg some (program.rows_filter db.store.liveDocuments tomb.id)

/-! ### Deleting a document -/

lemma deleteDocument_of_live {document : Document} (h : db.store.live? id = some document)
    (stamp : Stamp) :
    db.deleteDocument id stamp =
      (.ok (document.tombstone stamp), db.keep (document.tombstone stamp)) := by
  simp only [deleteDocument, h, addDocument_object, Document.tombstone]

lemma deleteDocument_of_not_live (h : db.store.live? id = none) (stamp : Stamp) :
    db.deleteDocument id stamp = (.error (.missingDocument id), db) := by
  simp only [deleteDocument, h]

/-- What a tombstone in place of a live document leaves of a database. -/
structure Buries (db after : Database) (document tomb : Document) (stamp : Stamp) : Prop where
  /-- The tombstone has the id and the body of the document and a revision of its own, which is of
  the first generation, -/
  id : tomb.id = document.id
  body : tomb.body = document.body
  deleted : tomb.deleted = true
  revision : tomb.revision = some (.fresh stamp)
  generation : ∃ token, tomb.revision = some ⟨1, token⟩
  /-- and is where the document was. -/
  entry : after.store.documents.get? document.id = some tomb
  order : after.store.documents.keys = db.store.documents.keys
  /-- No other document changes, -/
  others : ∀ other, other ≠ document.id →
    after.store.documents.get? other = db.store.documents.get? other
  locals : after.store.locals = db.store.locals
  designs : after.store.designs = db.store.designs
  liveWrites : after.store.liveWrites = db.store.liveWrites
  /-- the write of one tombstone more is counted, -/
  deletedWrites : after.store.deletedWrites = db.store.deletedWrites + 1
  name : after.name = db.name
  indexes : after.indexes = db.indexes
  security : after.security = db.security
  /-- and the views lose the rows of the document. -/
  rows : ∀ design view, (after.views.view? design view).map View.rows =
    (db.views.view? design view).map fun view => view.rows.filter (·.id ≠ document.id)
  no_row : ∀ design name view, after.views.view? design name = some view →
    ∀ row ∈ view.rows, row.id ≠ document.id
  /-- There is nothing left to delete. -/
  again : ∀ stamp, after.deleteDocument document.id stamp =
    (.error (.missingDocument document.id), after)

/-- Deleting puts a tombstone in the place of a live document and changes nothing else; where no
live document has the id, it fails and changes nothing at all. -/
theorem deleteDocument_buries (hdb : db.Reachable) (hid : id ≠ "") (stamp : Stamp) :
    (∀ document, db.store.documents.get? id = some document → document.deleted = false →
      ∃ tomb after, db.deleteDocument id stamp = (.ok tomb, after) ∧ document.id = id ∧
        db.Buries after document tomb stamp) ∧
    ((∀ document, db.store.documents.get? id = some document → document.deleted = true) →
      db.deleteDocument id stamp = (.error (.missingDocument id), db)) := by
  refine ⟨fun document hstored hlive => ?live, fun h => ?missing⟩
  case missing => exact deleteDocument_of_not_live (Store.live?_eq_none_iff.mpr h) stamp
  case live =>
    obtain ⟨hown, hlocal⟩ := hdb.regular id document hstored
    subst hown
    have hdelete := deleteDocument_of_live (Store.live?_eq_some_iff.mpr ⟨hstored, hlive⟩) stamp
    have htomb : (document.tombstone stamp).id = document.id := by
      rw [Document.id_tombstone, if_neg]
      simpa using hid
    have hregular := Document.isLocal_tombstone hlocal stamp
    have hdeleted := Document.deleted_tombstone document stamp
    refine ⟨_, _, hdelete, rfl, ?_⟩
    have hentry := get?_keep hregular db
    rw [htomb] at hentry
    have hrows := rows_keep_of_deleted hdb hregular hdeleted
    rw [htomb] at hrows
    constructor
    case id => exact htomb
    case body => exact document.body_tombstone stamp
    case deleted => exact hdeleted
    case revision => exact Document.revision_tombstone hlocal stamp
    case generation => exact ⟨_, Document.revision_tombstone hlocal stamp⟩
    case entry => exact hentry
    case order =>
      have hkey : document.id ∈ db.store.documents.keys := by
        rw [Table.keys, ← Fields.isSome_value?_iff, ← Table.get?, hstored]
        rfl
      rw [documents_keep_of_not_isLocal hregular, htomb, Table.keys_insert, if_pos hkey]
    case others =>
      intro other hother
      rw [documents_keep_of_not_isLocal hregular, htomb, Table.get?_insert, if_neg hother]
    case locals => rw [store_keep, Store.locals_keep, hregular, if_neg Bool.false_ne_true]
    case designs => rw [store_keep, Store.designs_keep]
    case liveWrites => simp [Store.keep, hregular, hdeleted]
    case deletedWrites => simp [Store.keep, hregular, hdeleted]
    case name => simp [keep, hregular, Database.rebuild]
    case indexes => simp [keep, hregular, Database.rebuild]
    case security => simp [keep, hregular, Database.rebuild]
    case rows => exact hrows
    case no_row =>
      intro design name view hview row hrow
      have hfiltered := hrows design name
      rw [hview] at hfiltered
      obtain ⟨before, -, hbefore⟩ := Option.map_eq_some_iff.mp hfiltered.symm
      rw [← hbefore] at hrow
      simpa using (List.mem_filter.mp hrow).2
    case again =>
      intro stamp
      apply deleteDocument_of_not_live
      rw [Store.live?, hentry, Option.filter_some, hdeleted]
      rfl

/-- Of two documents one is deleted; a third was never stored. -/
theorem deleteDocument_buries_first :
    let stamp : Stamp := ⟨⟨0⟩, ⟨1⟩⟩
    let db := (new "db").after
      [.addDocument (.object [("_id", .string "a"), ("v", .int 1), ("w", .null)]) none stamp,
        .addDocument (.object [("_id", .string "b")]) none stamp]
    db.Reachable ∧ "a" ≠ "" ∧ "c" ≠ "" ∧
      (∃ document tomb after, document.deleted = false ∧
        db.deleteDocument "a" stamp = (.ok tomb, after) ∧ db.Buries after document tomb stamp) ∧
      db.deleteDocument "c" stamp = (.error (.missingDocument "c"), db) := by
  intro stamp db
  have hdb : db.Reachable := ⟨_, _, rfl⟩
  have ha : "a" ≠ "" := by decide
  have hc : "c" ≠ "" := by decide
  have hlive : (db.store.documents.get? "a").any (!·.deleted) = true := by decide +kernel
  have hmissing : (db.store.documents.get? "c").isNone = true := by decide +kernel
  obtain ⟨document, hstored, hdeleted⟩ := (Option.any_eq_true _ _).mp hlive
  rw [Bool.not_eq_true'] at hdeleted
  obtain ⟨tomb, after, hdelete, -, hburies⟩ :=
    (deleteDocument_buries hdb ha stamp).1 document hstored hdeleted
  refine ⟨hdb, ha, hc, ⟨document, tomb, after, hdeleted, hdelete, hburies⟩,
    (deleteDocument_buries hdb hc stamp).2 fun document hdocument => ?_⟩
  rw [Option.isNone_iff_eq_none.mp hmissing] at hdocument
  cases hdocument

end Database

end DocumentDb
