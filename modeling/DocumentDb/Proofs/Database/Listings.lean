import DocumentDb.Database.Listing
import DocumentDb.Proofs.Database.Separation
import DocumentDb.Proofs.View.Paging

/-!
# Listings and tombstones

A listing pages through rows of the documents of one namespace: all of them, or those of given keys.
Only the listing of the regular documents leaves tombstones out. The other two show what is stored,
so a tombstone is listed as soon as one is among the local or the design documents, and such
documents come from bodies that are marked as deleted.
-/

namespace DocumentDb

/-! ### Documents that are listed -/

namespace Namespace

/-- The id in a namespace of a name or id. -/
def idOf : Namespace → String → String
  | regular => id
  | locals => DocId.toLocal
  | designs => DocId.toDesign

/-- Whether the listing of a namespace has a row of a document that is there. -/
def lists : Namespace → Document → Bool
  | regular => fun document => !document.deleted
  | locals | designs => fun _ => true

end Namespace

namespace Store.Separated

variable {store : Store} {space : Namespace} {id : String} {document : Document}

/-- In every namespace documents are under their own ids. -/
lemma id_eq (h : store.Separated) (hdocument : (space.documents store).get? id = some document) :
    document.id = id := by
  cases space with
  | regular => exact (h.regular id document hdocument).1
  | locals => exact (h.locals id document hdocument).1
  | designs => exact (h.designs id document hdocument).1

/-- The id of a stored document names it. -/
lemma idOf_eq (h : store.Separated) (hdocument : (space.documents store).get? id = some document) :
    space.idOf id = id := by
  cases space with
  | regular => rfl
  | locals => exact DocId.toLocal_of_isLocal (h.locals id document hdocument).2.1
  | designs => exact DocId.toDesign_of_isDesign (h.designs id document hdocument).2.1

end Store.Separated

namespace Database

variable {db : Database} {space : Namespace}

/-- The listing of a namespace. -/
def listing (db : Database) : Namespace → ViewQuery → Option (List String) → ViewResult
  | .regular => db.allDocs
  | .locals => db.localDocs
  | .designs => db.designDocs

/-- The documents that a listing has rows of. -/
def listed (db : Database) (space : Namespace) : Option (List String) → List Document
  | some keys => keys.filterMap fun key =>
      ((space.documents db.store).get? (space.idOf key)).filter space.lists
  | none => (space.documents db.store).values.filter space.lists

lemma listing_eq (db : Database) (space : Namespace) (query : ViewQuery)
    (keys : Option (List String)) :
    db.listing space query keys = query.paginate ((db.listed space keys).map Document.row) := by
  have hfilter (found : Option Document) : (found.filter fun _ => true) = found := by
    cases found <;> rfl
  cases space with
  | regular => cases keys <;> rfl
  | locals | designs =>
    cases keys with
    | none =>
      simp only [listed, Namespace.lists, List.filter_true]
      rfl
    | some keys =>
      simp only [listed, Namespace.lists, hfilter]
      rfl

lemma of_mem_listed {keys : Option (List String)} {document : Document}
    (h : document ∈ db.listed space keys) :
    space.lists document = true ∧ ∃ id, (space.documents db.store).get? id = some document := by
  cases keys with
  | none =>
    obtain ⟨hstored, hlists⟩ := List.mem_filter.mp h
    exact ⟨hlists, Table.mem_values_iff.mp hstored⟩
  | some keys =>
    obtain ⟨key, -, hkey⟩ := List.mem_filterMap.mp h
    obtain ⟨hstored, hlists⟩ := Option.filter_eq_some_iff.mp hkey
    exact ⟨hlists, _, hstored⟩

/-- A row of a listing is the row of a stored document, which is no tombstone in the listing of the
regular documents. -/
lemma of_mem_listing (hdb : db.Reachable) {query : ViewQuery} {keys : Option (List String)}
    {row : ViewRow} (h : row ∈ (db.listing space query keys).page) :
    ∃ document, (space.documents db.store).get? row.id = some document ∧
      space.lists document = true ∧ row = query.shown document.row := by
  rw [listing_eq] at h
  obtain ⟨given, hgiven, rfl⟩ := ViewQuery.mem_of_mem_paginate h
  obtain ⟨document, hdocument, rfl⟩ := List.mem_map.mp hgiven
  obtain ⟨hlists, id, hstored⟩ := of_mem_listed hdocument
  obtain rfl := hdb.separated.id_eq hstored
  refine ⟨document, ?_, hlists, rfl⟩
  rwa [ViewQuery.id_shown]

/-- The default query shows a stored document for its id, except for a regular tombstone. -/
lemma listing_default_singleton (hdb : db.Reachable) {id : String} {document : Document}
    (hdocument : (space.documents db.store).get? id = some document)
    (hlists : space.lists document = true) :
    db.listing space .default (some [id]) = .rows 0 [ViewQuery.default.shown document.row] := by
  have hlisted : db.listed space (some [id]) = [document] := by
    simp [listed, hdb.separated.idOf_eq hdocument, hdocument, Option.filter, hlists]
  rw [listing_eq, hlisted]
  rfl

end Database

/-! ### Where tombstones come from -/

/-- The bodies that a call stores. -/
def Operation.bodies : Operation → List Json
  | addDocument body _ _ | createDocument body _ _ | putLocal _ body _ => [body]
  | addDesign body _ _ | createDesign body _ _ => [body]
  | addDocuments bodies _ => bodies
  | deleteDocument _ _ | deleteLocal _ | deleteDesign _ | registerMap _ _ _ => []
  | addIndex _ _ _ | deleteIndex _ _ | setSecurity _ => []

/-- Whether a call stores no body that is marked as deleted. -/
def Operation.Unmarked (operation : Operation) : Prop :=
  ∀ body ∈ operation.bodies, Json.truthy (body.field? "_deleted") = false

namespace Document

lemma deleted_writtenLocal (id : String) (fields : Fields Json) (stamp : Stamp) :
    (writtenLocal id fields stamp).deleted = Json.truthy (Fields.value? fields "_deleted") := by
  rw [writtenLocal, deleted_written, Fields.value?_put, if_neg (by decide)]

lemma deleted_writtenDesign (fields : Fields Json) (id : String) (stamp : Stamp) :
    (writtenDesign fields id stamp).deleted = Json.truthy (Fields.value? fields "_deleted") := by
  change Json.truthy (Fields.value? (Fields.put fields "_id" (.string id)) "_deleted") = _
  rw [Fields.value?_put, if_neg (by decide)]

/-- A batch of bodies without marks writes documents that are not deleted. -/
lemma deleted_of_mem_writtenAll {stamps : Nat → Stamp} {bodies : List Json}
    (hbodies : ∀ body ∈ bodies, Json.truthy (body.field? "_deleted") = false)
    {document : Document} (h : document ∈ writtenAll stamps bodies.zipIdx) :
    document.deleted = false := by
  obtain ⟨⟨body, position⟩, hentry, hdocument⟩ := List.mem_filterMap.mp h
  obtain ⟨fields, hfields, rfl⟩ := Option.map_eq_some_iff.mp hdocument
  have hbody : body ∈ bodies := List.fst_mem_of_mem_zipIdx hentry
  cases body with
  | null | bool _ | number _ | string _ | array _ => cases hfields
  | object fields =>
    cases hfields
    exact hbodies _ hbody

end Document

namespace Namespace

/-- There is no tombstone in a namespace. -/
def Tombless (space : Namespace) (store : Store) : Prop :=
  ∀ id document, (space.documents store).get? id = some document → document.deleted = false

/-- What is the same in a namespace has no tombstones either. -/
lemma Tombless.of_sameIn {space : Namespace} {store other : Store} (h : space.Tombless store)
    (hsame : space.SameIn store other) : space.Tombless other := by
  have hdocuments : space.documents other = space.documents store := by
    cases space with
    | regular => exact hsame.1
    | locals | designs => exact hsame
  rw [Tombless, hdocuments]
  exact h

end Namespace

namespace Database

variable {db : Database} {space : Namespace}

/-- A call whose bodies carry no mark brings no tombstone to the local and the design documents. -/
lemma Performed.tombless {after : Database} {operation : Operation} {answer : Except Error Answer}
    (h : Performed db operation answer after) (hdb : db.store.Regular)
    (hunmarked : operation.Unmarked) (hspace : space ≠ .regular)
    (htombless : space.Tombless db.store) : space.Tombless after.store := by
  have heach : db.store.Each space fun _ document => document.deleted = false := htombless
  cases h with
  | fails operation error => exact htombless
  | addDocument | createDocument =>
    rw [store_keep]
    exact heach.keep fun _ => hunmarked _ (List.mem_singleton_self _)
  | addDocuments bodies stamps hbodies =>
    rw [store_keepAll]
    exact heach.keepAll fun _ h _ => Document.deleted_of_mem_writtenAll hunmarked h
  | deleteDocument id stamp document hlive =>
    refine htombless.of_sameIn ((deleteDocument id stamp document hlive).sameIn hdb ?_)
    simpa [Operation.namespaces] using hspace
  | putLocal id fields stamp =>
    rw [store_keep]
    refine heach.keep fun _ => ?_
    rw [Document.deleted_writtenLocal]
    exact hunmarked _ (List.mem_singleton_self _)
  | deleteLocal id document hlocal =>
    cases space with
    | regular | designs => exact htombless
    | locals => exact Table.forall_get?_erase htombless _
  | addDesign fields given stamp id design views hid hdesign hviews =>
    refine heach.keepDesign fun _ => ?_
    rw [Document.deleted_writtenDesign]
    exact hunmarked _ (List.mem_singleton_self _)
  | createDesign fields given stamp id design views hfree hid hdesign hviews =>
    refine heach.keepDesign fun _ => ?_
    rw [Document.deleted_writtenDesign]
    exact hunmarked _ (List.mem_singleton_self _)
  | deleteDesign id document hdesign =>
    cases space with
    | regular | locals => exact htombless
    | designs => exact Table.forall_get?_erase htombless _
  | registerMap | addIndex | deleteIndex | setSecurity => exact htombless

/-- Calls whose bodies carry no mark leave the local and the design documents without tombstones. -/
lemma tombless_after (hdb : db.store.Regular) (hspace : space ≠ .regular)
    (htombless : space.Tombless db.store) {operations : List Operation}
    (hunmarked : ∀ operation ∈ operations, operation.Unmarked) :
    space.Tombless (db.after operations).store := by
  induction operations generalizing db with
  | nil => exact htombless
  | cons operation operations ih =>
    have hrule := Performed.of_perform db operation
    have hfirst := hrule.tombless hdb (hunmarked _ List.mem_cons_self) hspace htombless
    refine ih (hrule.regular hdb) hfirst fun other hother => ?_
    exact hunmarked other (List.mem_cons_of_mem _ hother)

/-! ### Where tombstones are listed -/

/-- No row of a listing comes from a tombstone. -/
def HidesTombstones (db : Database) (space : Namespace) : Prop :=
  ∀ query keys, ∀ row ∈ (db.listing space query keys).page, ∀ document,
    (space.documents db.store).get? row.id = some document → document.deleted = false

/-- The listings of a namespace hide tombstones in two cases only: it is the regular one, or it has
no tombstones. -/
lemma hidesTombstones_iff (hdb : db.Reachable) :
    db.HidesTombstones space ↔ space = .regular ∨ space.Tombless db.store := by
  constructor
  · intro hhides
    by_cases hregular : space = .regular
    · exact .inl hregular
    · refine .inr fun id document hdocument => ?_
      have hlists : space.lists document = true := by
        cases space with
        | regular => exact absurd rfl hregular
        | locals | designs => rfl
      have hid : document.row.id = id := hdb.separated.id_eq hdocument
      apply hhides .default (some [id]) (ViewQuery.default.shown document.row)
      · rw [listing_default_singleton hdb hdocument hlists]
        exact List.mem_singleton_self _
      · rwa [ViewQuery.id_shown, hid]
  · intro hspace query keys row hrow document hdocument
    obtain ⟨other, hother, hlists, -⟩ := of_mem_listing hdb hrow
    obtain rfl := Option.some.inj (hother.symm.trans hdocument)
    rcases hspace with rfl | htombless
    · simpa [Namespace.lists] using hlists
    · exact htombless row.id other hdocument

/-- Every row of a listing comes from a document that is stored under the id of the row. The regular
listing never shows a tombstone. The other two show none exactly when there is none in their
namespace, which is so after any calls that store no body marked as deleted. -/
theorem listing_tombstones (hdb : db.Reachable) (space : Namespace) :
    (∀ query keys, ∀ row ∈ (db.listing space query keys).page, ∃ document,
      (space.documents db.store).get? row.id = some document ∧ row = query.shown document.row) ∧
    (db.HidesTombstones space ↔ space = .regular ∨ space.Tombless db.store) ∧
    (∀ name operations, db = (new name).after operations →
      (∀ operation ∈ operations, operation.Unmarked) → db.HidesTombstones space) := by
  refine ⟨?_, hidesTombstones_iff hdb, ?_⟩
  · intro query keys row hrow
    obtain ⟨document, hdocument, -, hshown⟩ := of_mem_listing hdb hrow
    exact ⟨document, hdocument, hshown⟩
  · rintro name operations rfl hunmarked
    rw [hidesTombstones_iff hdb, or_iff_not_imp_left]
    intro hspace
    have hempty : space.Tombless (new name).store := Store.Each.empty space _
    exact tombless_after Store.regular_empty hspace hempty hunmarked

/-- A local document whose body is marked as deleted is listed, and a deleted regular document is
not. -/
theorem listing_tombstones_local :
    let stamp : Stamp := ⟨⟨0⟩, ⟨1⟩⟩
    let db := (new "db").after
      [.putLocal "x" (.object [("_deleted", .bool true)]) stamp,
       .addDocument (.object []) (some "a") stamp, .deleteDocument "a" stamp]
    db.Reachable ∧ ¬ db.HidesTombstones .locals ∧ db.HidesTombstones .regular := by
  intro stamp db
  have hdb : db.Reachable := ⟨_, _, rfl⟩
  refine ⟨hdb, ?_, (listing_tombstones hdb .regular).2.1.mpr (.inl rfl)⟩
  rw [(listing_tombstones hdb .locals).2.1]
  rintro (h | h)
  · cases h
  · have hmarked : ((Namespace.locals.documents db.store).get? "_local/x").map Document.deleted =
        some true := by
      decide +kernel
    obtain ⟨document, hdocument, hdeleted⟩ := Option.map_eq_some_iff.mp hmarked
    rw [h _ document hdocument] at hdeleted
    cases hdeleted

/-- The listings need not hide tombstones: a local one is listed. -/
theorem not_listing_hides_tombstones :
    ¬ ∀ (db : Database) (space : Namespace), db.Reachable → db.HidesTombstones space := by
  intro hhides
  let stamp : Stamp := ⟨⟨0⟩, ⟨1⟩⟩
  let db := (new "db").after [.putLocal "x" (.object [("_deleted", .bool true)]) stamp]
  have hshown : ((db.localDocs .default none).page.map ViewRow.id) = ["_local/x"] := by
    decide +kernel
  have hmarked : (db.store.locals.get? "_local/x").map Document.deleted = some true := by
    decide +kernel
  obtain ⟨row, hrow, hid⟩ := List.mem_map.mp (hshown ▸ List.mem_singleton_self "_local/x")
  obtain ⟨document, hdocument, hdeleted⟩ := Option.map_eq_some_iff.mp hmarked
  have hlive := hhides db .locals ⟨_, _, rfl⟩ .default none row hrow document (hid ▸ hdocument)
  rw [hlive] at hdeleted
  cases hdeleted

end Database

end DocumentDb
