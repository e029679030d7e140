import DocumentDb.Proofs.Database.Namespaces
import DocumentDb.Proofs.Selector.Selection
import DocumentDb.Proofs.View.Paging

/-!
# What is found in a database

A request finds the live regular documents that satisfy its selector, sorted stably by the first
entry of its sort order. The answer shows a page of them, and the pages of one size put together
show them all.
-/

namespace DocumentDb

/-! ### Selecting and sorting documents -/

namespace Selector

/-- Looking up the positions of numbered items gives the items. -/
lemma filterMap_getElem?_snd {α : Type} {items : List α} {numbered : List (α × Nat)}
    (h : numbered ⊆ items.zipIdx) :
    (numbered.map Prod.snd).filterMap (items[·]?) = numbered.map Prod.fst := by
  rw [List.filterMap_map, ← List.filterMap_eq_map]
  refine List.filterMap_congr fun entry hentry => ?_
  exact List.mk_mem_zipIdx_iff_getElem?.mp (h hentry)

/-- The documents that a selector leaves are those at the positions that it selects. -/
lemma filterMap_getElem?_select (selector : Selector) (documents : List Json) :
    (selector.select documents).filterMap (documents[·]?) =
      (selector.narrow documents.zipIdx).map Prod.fst := by
  refine filterMap_getElem?_snd fun document hmem => ?_
  exact ((mem_narrow_iff selector (numbering_zipIdx documents)).mp hmem).1

/-- Without `$or`, narrowing filters. -/
lemma narrow_eq_filter {selector : Selector} (hors : selector.orsNegated = true)
    (documents : List Json) :
    selector.narrow documents.zipIdx = documents.zipIdx.filter (selector.satisfies ·.1) := by
  have hmem (entry : Numbered) : entry ∈ selector.narrow documents.zipIdx ↔
      entry ∈ documents.zipIdx.filter (selector.satisfies ·.1) := by
    rw [mem_narrow_iff selector (numbering_zipIdx documents), List.mem_filter]
  have hperm := (List.perm_ext_iff_of_nodup (nodup_narrow selector (nodup_zipIdx documents))
    ((nodup_zipIdx documents).filter _)).mpr hmem
  have hsublist := (narrow_sublist selector hors documents.zipIdx).filter (selector.satisfies ·.1)
  have hself : (selector.narrow documents.zipIdx).filter (selector.satisfies ·.1) =
      selector.narrow documents.zipIdx :=
    List.filter_eq_self.mpr fun entry hentry => (List.mem_filter.mp ((hmem entry).mp hentry)).2
  rw [hself] at hsublist
  exact hsublist.eq_of_length hperm.length_eq

end Selector

/-- Sorting by keys that agree is the same before and after a map. -/
lemma Json.map_sortByKey {α β : Type} (descending : Bool) (key : β → Json) (f : α → β)
    (items : List α) :
    (sortByKey descending (key ∘ f) items).map f = sortByKey descending key (items.map f) :=
  List.map_mergeSort fun _ _ _ _ => rfl

namespace Database

variable {db : Database}

/-! ### Live documents -/

lemma mem_liveDocuments_iff (hdb : db.Reachable) {document : Document} :
    document ∈ db.store.liveDocuments ↔
      db.store.documents.get? document.id = some document ∧ document.deleted = false := by
  rw [Store.liveDocuments, List.mem_filter, Table.mem_values_iff, Bool.not_eq_true']
  refine and_congr_left fun _ => ⟨?_, fun h => ⟨_, h⟩⟩
  rintro ⟨id, hid⟩
  rwa [(hdb.regular id document hid).1]

lemma nodup_id_liveDocuments (hdb : db.Reachable) :
    (db.store.liveDocuments.map Document.id).Nodup := by
  have hids : db.store.documents.values.map Document.id = db.store.documents.keys :=
    Table.map_values_eq_keys fun id document hid => (hdb.regular id document hid).1
  refine List.Nodup.sublist (List.filter_sublist.map Document.id) ?_
  rw [hids]
  exact db.store.documents.nodup

/-! ### Documents found -/

/-- The live documents that a selector selects, in the order in which it does. -/
def selected (db : Database) (selector : Selector) : List Document :=
  (selector.select (db.store.liveDocuments.map Document.toJson)).filterMap
    (db.store.liveDocuments[·]?)

/-- What a document is sorted by: the value of a field, `null` where there is none. -/
def sortKey (field : String) (document : Json) : Json := (document.get? field).getD .null

/-- The selected documents in the order that the first entry of a sort order asks for. -/
def found (db : Database) (selector : Selector) (sort : List SortField) : List Document :=
  match sort.head?.bind SortField.direction? with
  | some (field, descending) =>
    Json.sortByKey descending (sortKey field ∘ Document.toJson) (db.selected selector)
  | none => db.selected selector

lemma map_toJson_selected (db : Database) (selector : Selector) :
    (db.selected selector).map Document.toJson =
      (selector.narrow (db.store.liveDocuments.map Document.toJson).zipIdx).map Prod.fst := by
  rw [← Selector.filterMap_getElem?_select, selected, List.map_filterMap]
  simp only [List.getElem?_map]

lemma selected_eq_filter {selector : Selector} (hors : selector.orsNegated = true) :
    db.selected selector = db.store.liveDocuments.filter (selector.satisfies ·.toJson) := by
  have hselect : selector.select (db.store.liveDocuments.map Document.toJson) =
      (db.store.liveDocuments.zipIdx.filter (selector.satisfies ·.1.toJson)).map Prod.snd := by
    rw [Selector.select, Selector.narrow_eq_filter hors, List.zipIdx_map, List.filter_map,
      List.map_map]
    rfl
  rw [selected, hselect, Selector.filterMap_getElem?_snd (List.filter_subset_self _)]
  conv_rhs => rw [← List.zipIdx_map_fst 0 db.store.liveDocuments, List.filter_map]
  rfl

lemma mem_selected_iff {selector : Selector} {document : Document} :
    document ∈ db.selected selector ↔
      document ∈ db.store.liveDocuments ∧ selector.satisfies document.toJson = true := by
  simp only [selected, List.mem_filterMap, Selector.mem_select_iff, List.getElem?_map,
    Option.map_eq_some_iff]
  constructor
  · rintro ⟨position, ⟨_, ⟨other, hother, rfl⟩, hsatisfies⟩, hposition⟩
    obtain rfl := Option.some.inj (hother.symm.trans hposition)
    exact ⟨List.mem_of_getElem? hposition, hsatisfies⟩
  · rintro ⟨hmem, hsatisfies⟩
    obtain ⟨position, hposition⟩ := List.getElem?_of_mem hmem
    exact ⟨position, ⟨_, ⟨document, hposition, rfl⟩, hsatisfies⟩, hposition⟩

lemma nodup_id_selected (hdb : db.Reachable) (selector : Selector) :
    ((db.selected selector).map Document.id).Nodup := by
  have hids := nodup_id_liveDocuments hdb
  rw [selected, List.map_filterMap]
  simp only [← List.getElem?_map]
  refine (Selector.nodup_select selector _).filterMap fun first second id hfirst hsecond => ?_
  have hlt := (List.getElem?_eq_some_iff.mp hfirst).1
  exact (List.getElem?_inj hlt hids).mp (hfirst.trans hsecond.symm)

lemma found_perm (db : Database) (selector : Selector) (sort : List SortField) :
    (db.found selector sort).Perm (db.selected selector) := by
  unfold found
  split
  · exact (Json.eq_sortByKey_iff.mp rfl).perm
  · exact List.Perm.refl _

/-- Finding sorts what is selected and takes a page of it. -/
lemma find_eq {request : FindRequest} {selector : Selector}
    (hselector : Selector.ofJson request.selector = .ok selector) (hfields : request.fields = []) :
    db.find request = .ok
      ⟨(((db.found selector request.sort).map Document.toJson).drop request.skip).take
          request.limit,
        if request.wantsStats then some db.store.liveDocuments.length else none⟩ := by
  have hsorted : (db.found selector request.sort).map Document.toJson =
      sortDocuments request.sort ((db.selected selector).map Document.toJson) := by
    unfold found sortDocuments
    cases request.sort.head?.bind SortField.direction? with
    | none => rfl
    | some direction =>
      obtain ⟨field, descending⟩ := direction
      exact Json.map_sortByKey descending (sortKey field) Document.toJson (db.selected selector)
  simp only [find, DocumentDb.find, hselector, hfields, List.isEmpty_nil, if_true, List.length_map,
    ← map_toJson_selected, ← hsorted]

/-- What it means that a request with a selector finds `documents`. -/
structure Finds (db : Database) (request : FindRequest) (selector : Selector)
    (documents : List Document) : Prop where
  /-- They are the live regular documents that satisfy the selector, -/
  mem_iff : ∀ document, document ∈ documents ↔
    db.store.documents.get? document.id = some document ∧ document.deleted = false ∧
      selector.satisfies document.toJson = true
  not_isLocal : ∀ document ∈ documents, document.isLocal = false
  /-- each of them once. -/
  nodup : (documents.map Document.id).Nodup
  perm : documents.Perm (db.selected selector)
  /-- Without a sort order they come as they are selected, also where its first entry is empty, -/
  unsorted : request.sort = [] → documents = db.selected selector
  unsorted_empty : ∀ later, request.sort = .directed [] :: later →
    documents = db.selected selector
  /-- which is the order of the store where every `$or` is below a `$not` or `$nor`. -/
  selected : selector.orsNegated = true →
    db.selected selector = db.store.documents.values.filter fun document =>
      selector.satisfies document.toJson && !document.deleted
  /-- A first entry that is the name of a field sorts them stably and upwards, -/
  sorted_name : ∀ field later, request.sort = .name field :: later →
    StablySorted (Json.compareKeys false (sortKey field ∘ Document.toJson))
      (db.selected selector) documents
  /-- one with directions sorts them by its first field, downwards where the direction is `desc`, -/
  sorted_directed : ∀ field direction others later,
    request.sort = .directed ((field, direction) :: others) :: later →
      StablySorted (Json.compareKeys (direction == "desc") (sortKey field ∘ Document.toJson))
        (db.selected selector) documents
  /-- and later entries do nothing. -/
  later_sort : ∀ sort, sort.head? = request.sort.head? →
    db.find { request with sort } = db.find request
  /-- The answer shows a page of them. -/
  page : ∀ skip limit, ∃ examined, db.find { request with skip, limit } =
    .ok ⟨((documents.map Document.toJson).drop skip).take limit, examined⟩
  /-- Pages of one size show them all. -/
  pages : ∀ (size : Nat) (answers : Nat → FindResponse),
    (∀ page, db.find { request with skip := page * size, limit := size } = .ok (answers page)) →
      ∀ count, documents.length ≤ count * size →
        ((List.range count).flatMap fun page => (answers page).documents) =
          documents.map Document.toJson
  /-- Local documents and design documents do not count. -/
  namespaces : ∀ locals designs,
    { db with store := { db.store with locals, designs } }.find request = db.find request

/-- A request whose selector is well-formed and that asks for whole documents finds the live
documents that satisfy the selector, in order and page by page. -/
theorem find_meaning (hdb : db.Reachable) {request : FindRequest} {selector : Selector}
    (hselector : Selector.ofJson request.selector = .ok selector) (hfields : request.fields = []) :
    ∃ documents, db.Finds request selector documents := by
  have hperm := db.found_perm selector request.sort
  have hmem (document : Document) : document ∈ db.found selector request.sort ↔
      db.store.documents.get? document.id = some document ∧ document.deleted = false ∧
        selector.satisfies document.toJson = true := by
    rw [hperm.mem_iff, mem_selected_iff, mem_liveDocuments_iff hdb, and_assoc]
  have hpage (skip limit : Nat) :=
    @find_eq db { request with skip, limit } selector hselector hfields
  refine ⟨db.found selector request.sort, ?_⟩
  constructor
  case mem_iff => exact hmem
  case not_isLocal =>
    intro document hdocument
    exact (hdb.regular _ document ((hmem document).mp hdocument).1).2
  case nodup => exact (hperm.map Document.id).nodup_iff.mpr (nodup_id_selected hdb selector)
  case perm => exact hperm
  case unsorted =>
    intro hsort
    rw [hsort]
    rfl
  case unsorted_empty =>
    intro later hsort
    rw [hsort]
    rfl
  case selected =>
    intro hors
    rw [selected_eq_filter hors, Store.liveDocuments, List.filter_filter]
  case sorted_name =>
    intro field later hsort
    rw [hsort]
    exact Json.eq_sortByKey_iff.mp rfl
  case sorted_directed =>
    intro field direction others later hsort
    rw [hsort]
    exact Json.eq_sortByKey_iff.mp rfl
  case later_sort =>
    intro sort hhead
    rw [find_eq hselector hfields, @find_eq db { request with sort } selector hselector hfields]
    simp only [found, hhead]
  case page => exact fun skip limit => ⟨_, hpage skip limit⟩
  case pages =>
    intro size answers hanswers count hcount
    have hdocuments (page : Nat) : (answers page).documents =
        (((db.found selector request.sort).map Document.toJson).drop (page * size)).take size := by
      rw [← Except.ok.inj ((hpage (page * size) size).symm.trans (hanswers page))]
    simp only [hdocuments]
    rw [flatMap_pages, List.take_of_length_le]
    rwa [List.length_map]
  case namespaces => exact fun _ _ => rfl

/-- Of four documents, one of them deleted, two have a positive `n`, and they are found from the
greater `n` down. -/
theorem find_meaning_descending :
    let stamp : Stamp := ⟨⟨0⟩, ⟨1⟩⟩
    let db := (new "db").after
      [.addDocument (.object [("_id", .string "a"), ("n", .int 1)]) none stamp,
        .addDocument (.object [("_id", .string "b"), ("n", .int 2)]) none stamp,
        .addDocument (.object [("_id", .string "c"), ("n", .int 3)]) none stamp,
        .addDocument (.object [("_id", .string "d")]) none stamp,
        .deleteDocument "c" stamp]
    let request : FindRequest :=
      { FindRequest.ofSelector (.object [("n", .object [("$gt", .int 0)])]) with
        sort := [.directed [("n", "desc")]] }
    let selector : Selector := .mk [.field "n" (.operators [.gt (.int 0)])]
    db.Reachable ∧ Selector.ofJson request.selector = .ok selector ∧ request.fields = [] ∧
      ∃ documents, db.Finds request selector documents ∧
        documents.map Document.id = ["b", "a"] := by
  intro stamp db request selector
  have hdb : db.Reachable := ⟨_, _, rfl⟩
  have hselector : Selector.ofJson request.selector = .ok selector := by
    simp [request, selector, FindRequest.ofSelector, Selector.ofJson, Selector.clausesOf,
      Selector.clauseOf, Selector.operatorsOf, Selector.operatorOf, Selector.readPlain, bind,
      Except.bind, Except.map, pure, Except.pure]
  obtain ⟨documents, hfinds⟩ := find_meaning hdb hselector rfl
  have hfalling : (db.selected selector).Pairwise fun first second =>
      Json.compareKeys true (sortKey "n" ∘ Document.toJson) first second = .gt := by
    decide +kernel
  have hids : (db.selected selector).map Document.id = ["a", "b"] := by decide +kernel
  have hreverse := (hfinds.sorted_directed "n" "desc" [] [] rfl).eq_reverse hfalling
  refine ⟨hdb, hselector, rfl, documents, hfinds, ?_⟩
  rw [hreverse, List.map_reverse, hids]
  rfl

end Database

end DocumentDb
