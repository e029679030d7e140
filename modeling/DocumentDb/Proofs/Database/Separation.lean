import DocumentDb.Proofs.Database.Batches

/-!
# Namespaces do not mix

A database keeps regular, local and design documents apart. Every stored document is under its own
id, in a namespace that the id may belong to, and has a revision of that namespace
(`Store.Separated`). A call tells which namespaces it may write to (`Operation.namespaces`): a
document goes where its id says, which the body, the call or the random bits give. All other
namespaces stay as they are, and so do the views, unless regular documents or designs are written.
-/

namespace DocumentDb

/-! ### Namespaces -/

/-- The kinds of documents that a database keeps apart. -/
inductive Namespace
  | regular
  | locals
  | designs
deriving DecidableEq

namespace Namespace

/-- The namespace of a document that is not written as a design document. -/
def ofId (id : String) : Namespace := if DocId.isLocal id then locals else regular

/-- The namespace that a body is written to; a body that is no object is not written. -/
def ofBody (body : Json) (id : Option String) (stamp : Stamp) : List Namespace :=
  (Document.ofJson? body).toList.map fun document => ofId (Store.resolvedId document id stamp)

/-- The documents of a namespace. -/
def documents : Namespace → Store → Table Document
  | regular => Store.documents
  | locals => Store.locals
  | designs => Store.designs

/-- Whether two stores have the same in a namespace. The counters belong to the regular one. -/
def SameIn : Namespace → Store → Store → Prop
  | regular, store, other =>
    other.documents = store.documents ∧ other.liveWrites = store.liveWrites ∧
      other.deletedWrites = store.deletedWrites
  | locals, store, other => other.locals = store.locals
  | designs, store, other => other.designs = store.designs

lemma ofBody_object (fields : Fields Json) (id : Option String) (stamp : Stamp) :
    ofBody (.object fields) id stamp = [ofId (Document.written fields id stamp).id] := rfl

lemma regular_eq_ofId_iff {id : String} : regular = ofId id ↔ DocId.isLocal id = false := by
  by_cases h : DocId.isLocal id = true <;> simp [ofId, h]

lemma locals_eq_ofId_iff {id : String} : locals = ofId id ↔ DocId.isLocal id = true := by
  by_cases h : DocId.isLocal id = true <;> simp [ofId, h]

lemma designs_ne_ofId (id : String) : designs ≠ ofId id := by
  by_cases h : DocId.isLocal id = true <;> simp [ofId, h]

/-- A document is put into the namespace of its id. -/
lemma documents_keep (space : Namespace) (store : Store) (document : Document) :
    space.documents (store.keep document) =
      if ofId document.id = space then (space.documents store).insert document.id document
      else space.documents store := by
  by_cases hlocal : DocId.isLocal document.id = true
  · cases space <;> simp [documents, ofId, Document.isLocal, hlocal]
  · cases space <;> simp [documents, ofId, Document.isLocal, hlocal]

namespace SameIn

variable {space : Namespace}

lemma refl (space : Namespace) (store : Store) : space.SameIn store store := by
  cases space with
  | regular => exact ⟨rfl, rfl, rfl⟩
  | locals | designs => rfl

lemma trans {first second third : Store} (h : space.SameIn first second)
    (h' : space.SameIn second third) : space.SameIn first third := by
  cases space with
  | regular => exact ⟨h'.1.trans h.1, h'.2.1.trans h.2.1, h'.2.2.trans h.2.2⟩
  | locals | designs => exact Eq.trans h' h

/-- A document is kept in one namespace. -/
lemma keep {document : Document} (h : space ≠ ofId document.id) (store : Store) :
    space.SameIn store (store.keep document) := by
  cases space with
  | regular =>
    have hlocal : document.isLocal = true := by
      by_contra hlocal
      exact h (regular_eq_ofId_iff.mpr (Bool.eq_false_iff.mpr hlocal))
    simp only [SameIn, Store.keep, hlocal, if_true, and_self]
  | locals =>
    have hlocal : ¬ document.isLocal = true := fun hlocal => h (locals_eq_ofId_iff.mpr hlocal)
    rw [SameIn, Store.locals_keep, if_neg hlocal]
  | designs => exact store.designs_keep document

lemma keepAll {documents : List Document} (h : ∀ document ∈ documents, space ≠ ofId document.id)
    (store : Store) : space.SameIn store (documents.foldl Store.keep store) := by
  induction documents generalizing store with
  | nil => exact refl space store
  | cons document documents ih =>
    have hfirst : space.SameIn store (store.keep document) := keep (h _ List.mem_cons_self) store
    have hrest := ih (fun other hother => h other (List.mem_cons_of_mem _ hother))
    exact hfirst.trans (hrest _)

end SameIn

end Namespace

/-- The namespaces that a call may write to. -/
def Operation.namespaces : Operation → List Namespace
  | addDocument body id stamp | createDocument body id stamp => Namespace.ofBody body id stamp
  | addDocuments bodies stamps =>
    bodies.zipIdx.flatMap fun entry => Namespace.ofBody entry.1 none (stamps entry.2)
  | deleteDocument _ _ => [.regular]
  | putLocal _ _ _ | deleteLocal _ => [.locals]
  | addDesign _ _ _ | createDesign _ _ _ | deleteDesign _ | registerMap _ _ _ => [.designs]
  | addIndex _ _ _ | deleteIndex _ _ | setSecurity _ => []

/-- The namespace of a document that a batch writes is one that the batch names. -/
lemma Namespace.ofId_mem_flatMap_ofBody {stamps : Nat → Stamp} {bodies : List (Json × Nat)}
    {document : Document} (h : document ∈ Document.writtenAll stamps bodies) :
    ofId document.id ∈ bodies.flatMap fun entry => ofBody entry.1 none (stamps entry.2) := by
  obtain ⟨⟨body, position⟩, hentry, hdocument⟩ := List.mem_filterMap.mp h
  obtain ⟨fields, hfields, rfl⟩ := Option.map_eq_some_iff.mp hdocument
  cases body with
  | null | bool _ | number _ | string _ | array _ => cases hfields
  | object fields =>
    cases hfields
    refine List.mem_flatMap.mpr ⟨_, hentry, ?_⟩
    rw [ofBody_object]
    exact List.mem_singleton_self _

/-! ### Properties of all documents of a namespace -/

/-- Every document of a namespace, with the id that it is under, has a property. -/
def Store.Each (store : Store) (space : Namespace) (p : String → Document → Prop) : Prop :=
  ∀ id document, (space.documents store).get? id = some document → p id document

namespace Store.Each

variable {store : Store} {space : Namespace} {p : String → Document → Prop}

lemma empty (space : Namespace) (p : String → Document → Prop) : Store.empty.Each space p := by
  intro id document h
  cases space <;> cases h

lemma keep (h : store.Each space p) {document : Document}
    (hnew : space = .ofId document.id → p document.id document) :
    (store.keep document).Each space p := by
  unfold Store.Each
  rw [Namespace.documents_keep]
  split
  · rename_i hspace
    exact Table.forall_get?_insert h (hnew hspace.symm)
  · exact h

lemma keepAll (h : store.Each space p) {documents : List Document}
    (hnew : ∀ document ∈ documents, space = .ofId document.id → p document.id document) :
    (documents.foldl Store.keep store).Each space p := by
  induction documents generalizing store with
  | nil => exact h
  | cons document documents ih =>
    refine ih (h.keep (hnew _ List.mem_cons_self)) fun other hother => ?_
    exact hnew other (List.mem_cons_of_mem _ hother)

lemma keepDesign (h : store.Each space p) {design : Document}
    (hnew : space = .designs → p design.id design) : (store.keepDesign design).Each space p := by
  cases space with
  | regular | locals => exact h
  | designs => exact Table.forall_get?_insert h (hnew rfl)

end Store.Each

/-! ### The invariant -/

/-- A document has the revision that a write gives it: the fixed one of local documents, or a fresh
one. -/
def Document.Stamped (document : Document) : Prop :=
  ∃ stamp, document.revision = some (if document.isLocal then .ofLocal else .fresh stamp)

lemma Document.stamped_written (fields : Fields Json) (id : Option String) (stamp : Stamp) :
    (written fields id stamp).Stamped := ⟨stamp, rfl⟩

lemma Document.stamped_of_mem_writtenAll {stamps : Nat → Stamp} {bodies : List (Json × Nat)}
    {document : Document} (h : document ∈ writtenAll stamps bodies) : document.Stamped := by
  obtain ⟨entry, -, hdocument⟩ := List.mem_filterMap.mp h
  obtain ⟨fields, -, rfl⟩ := Option.map_eq_some_iff.mp hdocument
  exact stamped_written fields none (stamps entry.2)

namespace Store

/-- Every document is under its own id, in a namespace that the id may belong to, and has a revision
of that namespace. -/
structure Separated (store : Store) : Prop where
  regular : ∀ id document, store.documents.get? id = some document →
    document.id = id ∧ DocId.isLocal id = false ∧ ∃ token, document.revision = some ⟨1, token⟩
  locals : ∀ id document, store.locals.get? id = some document →
    document.id = id ∧ DocId.isLocal id = true ∧ document.revision = some ⟨0, "1"⟩
  designs : ∀ id document, store.designs.get? id = some document →
    document.id = id ∧ DocId.isDesign id = true ∧ ∃ token, document.revision = some ⟨1, token⟩

namespace Separated

variable {store : Store}

lemma empty : Store.empty.Separated :=
  ⟨Each.empty .regular _, Each.empty .locals _, Each.empty .designs _⟩

lemma keep (h : store.Separated) {document : Document} (hstamped : document.Stamped) :
    (store.keep document).Separated := by
  obtain ⟨stamp, hrevision⟩ := hstamped
  have hregular : store.Each .regular _ := h.regular
  have hlocals : store.Each .locals _ := h.locals
  have hdesigns : store.Each .designs _ := h.designs
  refine ⟨hregular.keep fun hspace => ?_, hlocals.keep fun hspace => ?_,
    hdesigns.keep fun hspace => ?_⟩
  · have hlocal : document.isLocal = false := Namespace.regular_eq_ofId_iff.mp hspace
    rw [hlocal] at hrevision
    exact ⟨rfl, hlocal, _, hrevision⟩
  · have hlocal : document.isLocal = true := Namespace.locals_eq_ofId_iff.mp hspace
    rw [hlocal] at hrevision
    exact ⟨rfl, hlocal, hrevision⟩
  · exact absurd hspace (Namespace.designs_ne_ofId document.id)

lemma keepAll (h : store.Separated) {documents : List Document}
    (hstamped : ∀ document ∈ documents, document.Stamped) :
    (documents.foldl Store.keep store).Separated := by
  induction documents generalizing store with
  | nil => exact h
  | cons document documents ih =>
    refine ih (h.keep (hstamped _ List.mem_cons_self)) ?_
    intro other hother
    exact hstamped other (List.mem_cons_of_mem _ hother)

lemma keepDesign (h : store.Separated) {id : String} (hid : DocId.isDesign id = true)
    (fields : Fields Json) (stamp : Stamp) :
    (store.keepDesign (.writtenDesign fields id stamp)).Separated := by
  have hown : DocId.isDesign (Document.writtenDesign fields id stamp).id = true := by
    rwa [Document.id_writtenDesign]
  exact ⟨h.regular, h.locals, Table.forall_get?_insert h.designs ⟨rfl, hown, _, rfl⟩⟩

end Separated

end Store

namespace Database

variable {db : Database}

/-- Every operation keeps the namespaces apart. -/
lemma Performed.separated {after : Database} {operation : Operation}
    {answer : Except Error Answer} (h : Performed db operation answer after)
    (hdb : db.store.Separated) : after.store.Separated := by
  cases h with
  | fails operation error => exact hdb
  | addDocument | createDocument | deleteDocument | putLocal =>
    rw [store_keep]
    exact hdb.keep (Document.stamped_written _ _ _)
  | addDocuments bodies stamps hbodies =>
    rw [store_keepAll]
    exact hdb.keepAll fun _ => Document.stamped_of_mem_writtenAll
  | deleteLocal id document hlocal =>
    exact ⟨hdb.regular, Table.forall_get?_erase hdb.locals _, hdb.designs⟩
  | addDesign fields given stamp id design views hid hdesign hviews =>
    exact hdb.keepDesign (isDesign_of_designIdFor hid) fields stamp
  | createDesign fields given stamp id design views hfree hid hdesign hviews =>
    exact hdb.keepDesign (isDesign_of_designIdFor hid) fields stamp
  | deleteDesign id document hdesign =>
    exact ⟨hdb.regular, hdb.locals, Table.forall_get?_erase hdb.designs _⟩
  | registerMap | addIndex | deleteIndex | setSecurity => exact hdb

lemma Reachable.separated (h : db.Reachable) : db.store.Separated := by
  refine Reachable.induct (motive := fun db => db.store.Separated) ?_ ?_ h
  · intro name
    exact .empty
  · intro db operation hdb
    exact (Performed.of_perform db operation).separated hdb

/-! ### What a call leaves alone -/

/-- What a deletion writes is a regular document. -/
lemma ofId_tombstone (hdb : db.store.Regular) {id : String} {document : Document}
    (hlive : db.store.live? id = some document) (stamp : Stamp) :
    Namespace.ofId (document.tombstone stamp).id = .regular := by
  obtain ⟨hdocument, -⟩ := Option.filter_eq_some_iff.mp hlive
  have hlocal := Document.isLocal_tombstone (hdb id document hdocument).2 stamp
  exact (Namespace.regular_eq_ofId_iff.mpr hlocal).symm

lemma ofId_writtenLocal (id : String) (fields : Fields Json) (stamp : Stamp) :
    Namespace.ofId (Document.writtenLocal id fields stamp).id = .locals :=
  (Namespace.locals_eq_ofId_iff.mpr (Document.isLocal_writtenLocal id fields stamp)).symm

/-- A call writes to no namespace but those that it names. -/
lemma Performed.sameIn {after : Database} {operation : Operation} {answer : Except Error Answer}
    (h : Performed db operation answer after) (hdb : db.store.Regular) {space : Namespace}
    (hspace : space ∉ operation.namespaces) : space.SameIn db.store after.store := by
  cases h with
  | fails operation error => exact .refl space db.store
  | addDocument | createDocument =>
    rw [Operation.namespaces, Namespace.ofBody_object, List.mem_singleton] at hspace
    rw [store_keep]
    exact .keep hspace db.store
  | addDocuments bodies stamps hbodies =>
    rw [store_keepAll]
    apply Namespace.SameIn.keepAll
    rintro document hdocument rfl
    exact hspace (Namespace.ofId_mem_flatMap_ofBody hdocument)
  | deleteDocument id stamp document hlive =>
    rw [Operation.namespaces, List.mem_singleton, ← ofId_tombstone hdb hlive stamp] at hspace
    rw [store_keep]
    exact .keep hspace db.store
  | putLocal id fields stamp =>
    rw [Operation.namespaces, List.mem_singleton, ← ofId_writtenLocal id fields stamp] at hspace
    rw [store_keep]
    exact .keep hspace db.store
  | deleteLocal id document hlocal =>
    cases space with
    | locals => exact absurd (List.mem_singleton_self _) hspace
    | regular => exact ⟨rfl, rfl, rfl⟩
    | designs => rfl
  | addDesign | createDesign | deleteDesign | registerMap =>
    cases space with
    | designs => exact absurd (List.mem_singleton_self _) hspace
    | regular => exact ⟨rfl, rfl, rfl⟩
    | locals => rfl
  | addIndex | deleteIndex | setSecurity => exact .refl space db.store

/-- To keep a local document changes no view. -/
lemma views_keep {document : Document} (h : Namespace.ofId document.id ≠ .regular) :
    (db.keep document).views = db.views := by
  have hlocal : document.isLocal = true := by
    by_contra hlocal
    exact h (Namespace.regular_eq_ofId_iff.mpr (Bool.eq_false_iff.mpr hlocal)).symm
  rw [keep, if_pos hlocal]

/-- A call that writes neither regular documents nor designs changes no view. -/
lemma Performed.views_eq {after : Database} {operation : Operation} {answer : Except Error Answer}
    (h : Performed db operation answer after) (hdb : db.Reachable)
    (hregular : .regular ∉ operation.namespaces) (hdesigns : .designs ∉ operation.namespaces) :
    after.views = db.views := by
  cases h with
  | fails operation error => rfl
  | addDocument | createDocument =>
    rw [Operation.namespaces, Namespace.ofBody_object, List.mem_singleton] at hregular
    exact views_keep (Ne.symm hregular)
  | addDocuments bodies stamps hbodies =>
    -- The views are rebuilt from the documents that they have been built from.
    obtain ⟨hdocuments, -⟩ :=
      (Performed.addDocuments bodies stamps hbodies).sameIn hdb.regular hregular
    rw [store_keepAll] at hdocuments
    rw [keepAll, rebuild, hdocuments]
    exact hdb.builtFrom.rebuildAll_eq_self
  | deleteDocument id stamp document hlive => exact absurd (List.mem_singleton_self _) hregular
  | putLocal id fields stamp =>
    apply views_keep
    rw [ofId_writtenLocal]
    decide
  | addDesign | createDesign | deleteDesign | registerMap =>
    exact absurd (List.mem_singleton_self _) hdesigns
  | deleteLocal | addIndex | deleteIndex | setSecurity => rfl

/-- In a reachable database every document is in a namespace that its id may belong to, under its
own id and with a revision of that namespace. A call, successful or not, leaves the namespaces alone
that it does not name, and the views with them unless it names the regular documents or the designs.
-/
theorem namespaces_apart (hdb : db.Reachable) :
    db.store.Separated ∧ ∀ operation : Operation,
      (∀ space ∉ operation.namespaces, space.SameIn db.store (db.perform operation).2.store) ∧
      (.regular ∉ operation.namespaces → .designs ∉ operation.namespaces →
        (db.perform operation).2.views = db.views) := by
  refine ⟨hdb.separated, fun operation => ?_⟩
  have hrule := Performed.of_perform db operation
  exact ⟨fun _ hspace => hrule.sameIn hdb.regular hspace, hrule.views_eq hdb⟩

/-- A document whose `_id` is that of a local document, stored under another id given with it, and a
batch of a local and a regular document, in a database with documents of all kinds. -/
theorem namespaces_apart_mixed :
    let view := Json.object
      [("map", .string "doc => emit(doc.n, doc.n)"), ("reduce", .string "_sum")]
    let stamp : Stamp := ⟨⟨0⟩, ⟨1⟩⟩
    let db := (new "db").after
      [.addDesign (.object [("views", .object [("total", view)])]) (some "numbers") stamp,
       .addDocument (.object [("n", .int 1)]) (some "a") stamp, .putLocal "b" (.object []) stamp,
       .deleteDocument "a" stamp]
    let create := Operation.createDocument (.object [("_id", .string "_local/c")]) (some "a") stamp
    let batch := Operation.addDocuments
      [.object [("_id", .string "_local/b"), ("n", .int 2)], .object [("n", .int 3)]] fun _ => stamp
    db.Reachable ∧ db.store.Separated ∧
      (create.namespaces = [.locals] ∧
        Namespace.regular.SameIn db.store (db.perform create).2.store ∧
        Namespace.designs.SameIn db.store (db.perform create).2.store ∧
        (db.perform create).2.views = db.views) ∧
      (batch.namespaces = [.locals, .regular] ∧
        Namespace.designs.SameIn db.store (db.perform batch).2.store) := by
  intro view stamp db create batch
  have hdb : db.Reachable := ⟨_, _, rfl⟩
  have hcreate : create.namespaces = [.locals] := by decide +kernel
  have hbatch : batch.namespaces = [.locals, .regular] := by decide +kernel
  obtain ⟨hseparated, happart⟩ := namespaces_apart hdb
  refine ⟨hdb, hseparated, ⟨hcreate, ?_, ?_, ?_⟩, hbatch, ?_⟩
  · exact (happart create).1 .regular (by rw [hcreate]; decide)
  · exact (happart create).1 .designs (by rw [hcreate]; decide)
  · exact (happart create).2 (by rw [hcreate]; decide) (by rw [hcreate]; decide)
  · exact (happart batch).1 .designs (by rw [hbatch]; decide)

end Database

end DocumentDb
