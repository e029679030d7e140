import DocumentDb.Store
import Mathlib.Tactic.Common

/-!
# Writes of the store

A write succeeds exactly when its body is an object. It then puts the document in the body, under
the id resolved for it and with a new revision, into the namespace that the id belongs to, and
leaves the other namespaces as they are.
-/

namespace DocumentDb

/-! ### Random ids -/

/-- A hexadecimal digit is no underscore. -/
lemma Text.underscore_not_mem_hex (n width : Nat) : '_' ∉ hex n width := by
  induction width generalizing n with
  | zero => simp [hex]
  | succ width ih =>
    have hdigit : ∀ k < 16, Nat.digitChar k ≠ '_' := by decide
    simp only [hex, List.mem_append, List.mem_singleton, not_or]
    exact ⟨ih _, (hdigit _ (Nat.mod_lt _ (by decide))).symm⟩

/-- A random id does not belong to the local documents. -/
lemma DocId.isLocal_hyphenated (uuid : Uuid) : isLocal uuid.hyphenated = false := by
  obtain ⟨digit, digits, hdigits⟩ := List.exists_cons_of_length_eq_add_one uuid.length_digits
  have hdigit : digit ≠ '_' := by
    rintro rfl
    apply Text.underscore_not_mem_hex uuid.bits.toNat 32
    change '_' ∈ uuid.digits
    rw [hdigits]
    exact List.mem_cons_self
  simp [isLocal, Text.startsWith, localStart, Uuid.hyphenated, hdigits, List.isPrefixOf,
    hdigit.symm]

/-! ### The documents that are written -/

namespace Document

/-- The document that a write of an object stores. -/
def written (fields : Fields Json) (id : Option String) (stamp : Stamp) : Document :=
  let document := ofFields fields
  let id := Store.resolvedId document id stamp
  { document with id, revision := some (if DocId.isLocal id then .ofLocal else .fresh stamp) }

/-- The documents that writes of numbered objects store, each with the random bits of its number. -/
def writtenAll (stamps : Nat → Stamp) (bodies : List (Json × Nat)) : List Document :=
  bodies.filterMap fun entry => entry.1.fields?.map (written · none (stamps entry.2))

/-- The document that a write of an object as a local document stores. -/
def writtenLocal (id : String) (fields : Fields Json) (stamp : Stamp) : Document :=
  written (Fields.put fields "_id" (.string (DocId.toLocal id))) none stamp

/-- The document that takes the place of one that is deleted. -/
def tombstone (document : Document) (stamp : Stamp) : Document :=
  written (Fields.put document.fields "_deleted" (.bool true)) none stamp

lemma deleted_written (fields : Fields Json) (id : Option String) (stamp : Stamp) :
    (written fields id stamp).deleted = Json.truthy (Fields.value? fields "_deleted") := rfl

lemma deleted_tombstone (document : Document) (stamp : Stamp) :
    (document.tombstone stamp).deleted = true := by
  rw [tombstone, deleted_written, Fields.value?_put, if_pos rfl]
  rfl

/-- A deleted document keeps its id, unless that is empty. -/
lemma id_tombstone (document : Document) (stamp : Stamp) :
    (document.tombstone stamp).id =
      if document.id.isEmpty then stamp.id.hyphenated else document.id := rfl

/-- A deleted regular document does not become a local one. -/
lemma isLocal_tombstone {document : Document} (h : document.isLocal = false) (stamp : Stamp) :
    (document.tombstone stamp).isLocal = false := by
  rw [isLocal, id_tombstone]
  split
  · exact DocId.isLocal_hyphenated _
  · exact h

/-- The document that a write of an object as a design document stores. -/
def writtenDesign (fields : Fields Json) (id : String) (stamp : Stamp) : Document :=
  { ofFields (Fields.put fields "_id" (.string id)) with revision := some (.fresh stamp) }

@[simp] lemma id_ofFields_put (fields : Fields Json) (id : String) :
    (ofFields (Fields.put fields "_id" (.string id))).id = id := by
  simp [ofFields, Fields.value?_put, Json.string?]

@[simp] lemma id_writtenDesign (fields : Fields Json) (id : String) (stamp : Stamp) :
    (writtenDesign fields id stamp).id = id :=
  id_ofFields_put fields id

@[simp] lemma id_writtenLocal (id : String) (fields : Fields Json) (stamp : Stamp) :
    (writtenLocal id fields stamp).id = DocId.toLocal id := by
  have hempty := DocId.not_isEmpty_of_isLocal (DocId.isLocal_toLocal id)
  simp [writtenLocal, written, Store.resolvedId, hempty]

lemma isLocal_writtenLocal (id : String) (fields : Fields Json) (stamp : Stamp) :
    (writtenLocal id fields stamp).isLocal = true := by
  rw [isLocal, id_writtenLocal]
  exact DocId.isLocal_toLocal id

end Document

namespace Store

/-! ### Writes of documents -/

/-- The store after a document is put under its id. -/
def keep (store : Store) (document : Document) : Store :=
  if document.isLocal then { store with locals := store.locals.insert document.id document }
  else
    { store with
      documents := store.documents.insert document.id document
      liveWrites := store.liveWrites + if document.deleted then 0 else 1
      deletedWrites := store.deletedWrites + if document.deleted then 1 else 0 }

lemma add_object (store : Store) (fields : Fields Json) (id : Option String) (stamp : Stamp) :
    store.add (.object fields) id stamp =
      (.ok (.written fields id stamp), store.keep (.written fields id stamp)) := by
  simp only [add, Document.ofJson?, Json.fields?, Option.map_some, Document.isLocal, keep,
    Document.written, putLocal, putRegular]
  by_cases hlocal : DocId.isLocal (resolvedId (Document.ofFields fields) id stamp) = true
  · simp only [hlocal, if_true]
  · simp only [hlocal, if_false, Bool.false_eq_true]
    rfl

lemma add_of_not_object (store : Store) {body : Json} (h : body.isObject = false)
    (id : Option String) (stamp : Stamp) :
    store.add body id stamp = (.error .documentNotObject, store) := by
  cases body with
  | object fields => cases h
  | null | bool _ | number _ | string _ | array _ => rfl

@[simp] lemma documents_keep (store : Store) (document : Document) :
    (store.keep document).documents =
      if document.isLocal then store.documents
      else store.documents.insert document.id document := by
  unfold keep
  split <;> rfl

@[simp] lemma locals_keep (store : Store) (document : Document) :
    (store.keep document).locals =
      if document.isLocal then store.locals.insert document.id document else store.locals := by
  unfold keep
  split <;> rfl

@[simp] lemma designs_keep (store : Store) (document : Document) :
    (store.keep document).designs = store.designs := by
  unfold keep
  split <;> rfl

/-! ### Writes of design documents -/

/-- The store after a design document is put under its id. -/
def keepDesign (store : Store) (design : Document) : Store :=
  { store with designs := store.designs.insert design.id design }

/-- A design document with a well-formed id is always accepted. -/
lemma putDesign_object (store : Store) {id : String} (hid : DocId.isDesign id = true)
    (fields : Fields Json) (stamp : Stamp) :
    store.putDesign (.object (Fields.put fields "_id" (.string id))) none stamp =
      (.ok (.writtenDesign fields id stamp),
        store.keepDesign (.writtenDesign fields id stamp)) := by
  have hempty := DocId.not_isEmpty_of_isDesign hid
  simp only [putDesign, Document.ofJson?, Json.fields?, Option.map_some, Document.id_ofFields_put,
    hempty, Bool.false_eq_true, if_false, Document.isDesign, hid, if_true, keepDesign,
    Document.writtenDesign]

/-- Storing a design document touches nothing but the design documents. -/
lemma putDesign_frame (store : Store) (body : Json) (id : Option String) (stamp : Stamp) :
    ∃ designs, (store.putDesign body id stamp).2 = { store with designs } := by
  cases hdocument : Document.ofJson? body with
  | none => exact ⟨store.designs, by simp only [putDesign, hdocument]⟩
  | some document =>
    simp only [putDesign, hdocument]
    generalize (if document.id.isEmpty = true then id.getD "" else document.id) = own
    split
    · exact ⟨_, rfl⟩
    · exact ⟨store.designs, rfl⟩

/-! ### Removals -/

lemma removeDesign_of_missing {store : Store} {id : String} (h : store.designs.get? id = none) :
    store.removeDesign id = (none, store) := by
  simp only [removeDesign, h, Table.erase_eq_self h]

lemma removeLocal_of_missing {store : Store} {id : String} (h : store.locals.get? id = none) :
    store.removeLocal id = (none, store) := by
  simp only [removeLocal, h, Table.erase_eq_self h]

/-! ### Reads -/

lemma live?_eq_some_iff {store : Store} {id : String} {document : Document} :
    store.live? id = some document ↔
      store.documents.get? id = some document ∧ document.deleted = false := by
  rw [live?, Option.filter_eq_some_iff, Bool.not_eq_true']

lemma live?_eq_none_iff {store : Store} {id : String} :
    store.live? id = none ↔
      ∀ document, store.documents.get? id = some document → document.deleted = true := by
  rw [live?, Option.filter_eq_none_iff]
  simp

/-! ### Regular documents -/

/-- Every regular document is under its own id, which is no id of a local document. -/
def Regular (store : Store) : Prop :=
  ∀ id document, store.documents.get? id = some document →
    document.id = id ∧ document.isLocal = false

lemma regular_empty : empty.Regular := by
  intro id document h
  cases h

lemma Regular.keep {store : Store} (h : store.Regular) (document : Document) :
    (store.keep document).Regular := by
  unfold Regular
  rw [documents_keep]
  split
  · exact h
  · rename_i hlocal
    exact Table.forall_get?_insert h ⟨rfl, Bool.eq_false_iff.mpr hlocal⟩

lemma Regular.keepAll {store : Store} (h : store.Regular) (documents : List Document) :
    (documents.foldl Store.keep store).Regular := by
  induction documents generalizing store with
  | nil => exact h
  | cons document documents ih => exact ih (h.keep document)

lemma Regular.of_documents_eq {store other : Store} (h : store.Regular)
    (hdocuments : other.documents = store.documents) : other.Regular := by
  intro id document hdocument
  rw [hdocuments] at hdocument
  exact h id document hdocument

end Store

end DocumentDb
