import DocumentDb.Proofs.View.Programs

/-!
# Storing documents in a batch

A batch stores its documents one after the other and rebuilds the views once, at the end. Storing
the same documents by a call for each rebuilds the views after every regular document and after no
local one. Both lead to the same database: what a rebuild makes of a view depends on its map
function, its reducer and the documents alone, so that all rebuilds but the last are lost, and where
there is none, the views of a reachable database are what a rebuild would make of them
(`Reachable.builtFrom`).
-/

namespace DocumentDb

/-! ### Building again -/

lemma DesignViews.build_build (first second : List Document) (design : DesignViews) :
    (design.build first).build second = design.build second := by
  simp only [build, Table.mapValues_mapValues]
  rfl

namespace ViewEngine

/-- The views are what a rebuild from the documents makes of them. -/
def BuiltFrom (engine : ViewEngine) (documents : List Document) : Prop :=
  ∀ id design, engine.designs.get? id = some design → design.build documents = design

lemma rebuildAll_rebuildAll (engine : ViewEngine) (first second : List Document) :
    (engine.rebuildAll first).rebuildAll second = engine.rebuildAll second := by
  simp only [rebuildAll, Table.mapValues_mapValues, Function.comp_def, DesignViews.build_build]

namespace BuiltFrom

variable {engine : ViewEngine} {documents : List Document}

/-- A rebuild of views that are built changes nothing. -/
lemma rebuildAll_eq_self (h : engine.BuiltFrom documents) :
    engine.rebuildAll documents = engine := by
  rw [rebuildAll, Table.mapValues_eq_self h]

lemma rebuildAll (engine : ViewEngine) (documents : List Document) :
    (engine.rebuildAll documents).BuiltFrom documents := by
  intro id design h
  rw [ViewEngine.rebuildAll, Table.get?_mapValues, Option.map_eq_some_iff] at h
  obtain ⟨design, -, rfl⟩ := h
  exact DesignViews.build_build documents documents design

/-- Rebuilding the views of one design document is enough where those of the others are built. -/
lemma rebuild {id : String} (h : ∀ other design, other ≠ id →
      engine.designs.get? other = some design → design.build documents = design) :
    (engine.rebuild id documents).BuiltFrom documents := by
  intro other design hdesign
  rw [ViewEngine.rebuild, Table.get?_modify] at hdesign
  split at hdesign
  · obtain ⟨design, -, rfl⟩ := Option.map_eq_some_iff.mp hdesign
    exact DesignViews.build_build documents documents design
  · rename_i hother
    exact h other design hother hdesign

lemma removeDesign (h : engine.BuiltFrom documents) (id : String) :
    (engine.removeDesign id).BuiltFrom documents := by
  intro other design hdesign
  rw [ViewEngine.removeDesign, Table.get?_erase] at hdesign
  split at hdesign
  · cases hdesign
  · exact h other design hdesign

end BuiltFrom

end ViewEngine

namespace Database

/-! ### The views of a reachable database are built -/

lemma builtFrom_keep {db : Database} (hdb : db.views.BuiltFrom db.store.documents.values)
    (document : Document) :
    (db.keep document).views.BuiltFrom (db.keep document).store.documents.values := by
  rw [store_keep, Store.documents_keep]
  unfold keep
  split
  · exact hdb
  · rename_i hlocal
    simp only [rebuild, Store.documents_keep, hlocal]
    exact .rebuildAll db.views _

/-- Storing a design document builds its views and leaves those of the others as they are. -/
lemma builtFrom_keepDesign {db : Database} (hdb : db.views.BuiltFrom db.store.documents.values)
    {fields : Fields Json} {id : String} {design : DesignDocument} {views : ViewEngine}
    (stamp : Stamp)
    (hdesign : DesignDocument.ofJson (.object (Fields.put fields "_id" (.string id))) = .ok design)
    (hviews : db.views.addDesign design = .ok views) :
    (db.keepDesign (.writtenDesign fields id stamp) views).views.BuiltFrom
      db.store.documents.values := by
  obtain ⟨compiled, -, rfl⟩ := ViewEngine.addDesign_eq_ok_iff.mp hviews
  rw [keepDesign, Document.id_writtenDesign, (DesignDocument.of_ofJson_ok hdesign).1]
  refine .rebuild fun other registered hother hregistered => ?_
  rw [Table.get?_insert, if_neg hother] at hregistered
  exact hdb other registered hregistered

/-- Every operation leaves the views built from the regular documents. -/
lemma Performed.builtFrom {db after : Database} {operation : Operation}
    {answer : Except Error Answer} (h : Performed db operation answer after)
    (hdb : db.views.BuiltFrom db.store.documents.values) :
    after.views.BuiltFrom after.store.documents.values := by
  cases h with
  | fails operation error => exact hdb
  | addDocument | createDocument | deleteDocument | putLocal => exact builtFrom_keep hdb _
  | addDocuments bodies stamps hbodies => exact .rebuildAll db.views _
  | addDesign fields given stamp id design views hid hdesign hviews =>
    exact builtFrom_keepDesign hdb stamp hdesign hviews
  | createDesign fields given stamp id design views hfree hid hdesign hviews =>
    exact builtFrom_keepDesign hdb stamp hdesign hviews
  | deleteDesign id document hdesign => exact hdb.removeDesign (DocId.toDesign id)
  | registerMap design view map views hviews =>
    obtain ⟨-, rfl⟩ := ViewEngine.registerMap_eq_ok_iff.mp hviews
    refine .rebuild fun other registered hother hregistered => ?_
    rw [Table.get?_modify, if_neg hother] at hregistered
    exact hdb other registered hregistered
  | deleteLocal | addIndex | deleteIndex | setSecurity => exact hdb

lemma Reachable.builtFrom {db : Database} (h : db.Reachable) :
    db.views.BuiltFrom db.store.documents.values := by
  refine Reachable.induct
    (motive := fun db => db.views.BuiltFrom db.store.documents.values) ?_ ?_ h
  · intro name id design hdesign
    cases hdesign
  · intro db operation hdb
    exact (Performed.of_perform db operation).builtFrom hdb

/-! ### One rebuild or many -/

/-- The rebuild after a document is lost to the rebuild after the documents that follow it. -/
lemma keepAll_keep (db : Database) (document : Document) (documents : List Document) :
    (db.keep document).keepAll documents = db.keepAll (document :: documents) := by
  simp only [keepAll, rebuild, store_keep, List.foldl_cons]
  unfold keep
  split
  · rfl
  · simp only [rebuild, ViewEngine.rebuildAll_rebuildAll]

/-- To store documents one by one is to store them all. -/
lemma foldl_keep {db : Database} (hdb : db.views.BuiltFrom db.store.documents.values)
    (documents : List Document) : documents.foldl keep db = db.keepAll documents := by
  induction documents generalizing db with
  | nil => simp only [keepAll, rebuild, List.foldl_nil, hdb.rebuildAll_eq_self]
  | cons document documents ih =>
    rw [List.foldl_cons, ih (builtFrom_keep hdb document), keepAll_keep]

/-- The calls that store bodies one by one, each with the random bits of its position. -/
def additions (stamps : Nat → Stamp) (bodies : List (Json × Nat)) : List Operation :=
  bodies.map fun entry => .addDocument entry.1 none (stamps entry.2)

lemma after_additions (stamps : Nat → Stamp) {bodies : List (Json × Nat)}
    (h : ∀ entry ∈ bodies, entry.1.isObject = true) (db : Database) :
    db.after (additions stamps bodies) = (Document.writtenAll stamps bodies).foldl keep db ∧
      (db.transcript (additions stamps bodies)).map Prod.snd =
        (Document.writtenAll stamps bodies).map fun document => .ok (.document document) := by
  induction bodies generalizing db with
  | nil => exact ⟨rfl, rfl⟩
  | cons entry bodies ih =>
    obtain ⟨body, position⟩ := entry
    obtain ⟨fields, rfl⟩ := Json.isObject_iff.mp (h _ List.mem_cons_self)
    have hperform : db.perform (.addDocument (.object fields) none (stamps position)) =
        (.ok (.document (.written fields none (stamps position))),
          db.keep (.written fields none (stamps position))) := by
      simp only [perform, addDocument_object]
      rfl
    obtain ⟨hafter, hanswers⟩ := ih (fun entry hentry => h entry (List.mem_cons_of_mem _ hentry))
      (db.keep (.written fields none (stamps position)))
    constructor
    · simp only [additions, List.map_cons, after, List.foldl_cons, hperform]
      exact hafter
    · simp only [additions, List.map_cons, transcript, hperform]
      exact congrArg _ hanswers

/-- Objects are stored in a batch as they are by a call for each: the answers and the database
afterwards are the same. A batch with a body that is no object is refused, for the first such body,
and changes nothing. -/
theorem addDocuments_eq_each {db : Database} (hdb : db.Reachable) (bodies : List Json)
    (stamps : Nat → Stamp) :
    ((∀ body ∈ bodies, body.isObject = true) →
      ∃ documents,
        db.addDocuments bodies stamps = (.ok documents, db.after (additions stamps bodies.zipIdx)) ∧
        (db.transcript (additions stamps bodies.zipIdx)).map Prod.snd =
          documents.map fun document => .ok (.document document)) ∧
      ∀ body ∈ bodies, body.isObject = false →
        ∃ position, bodies.findIdx? (!·.isObject) = some position ∧
          db.addDocuments bodies stamps = (.error (.documentNotObjectAt position), db) := by
  constructor
  · intro hbodies
    have hentries : ∀ entry ∈ bodies.zipIdx, entry.1.isObject = true :=
      fun entry hentry => hbodies _ (List.fst_mem_of_mem_zipIdx hentry)
    obtain ⟨hafter, hanswers⟩ := after_additions stamps hentries db
    rw [addDocuments_objects db hbodies, hafter, foldl_keep hdb.builtFrom]
    exact ⟨_, rfl, hanswers⟩
  · intro body hbody hobject
    cases hfirst : bodies.findIdx? (!·.isObject) with
    | none =>
      have hall := List.findIdx?_eq_none_iff.mp hfirst body hbody
      rw [hobject] at hall
      cases hall
    | some position =>
      simp only [addDocuments, hfirst]
      exact ⟨position, rfl, rfl⟩

/-- A batch that writes `a`, a local document, `a` again as a tombstone and a document without an
id, on a database with a view; and the same batch with `null` at its end. -/
theorem addDocuments_eq_each_mixed :
    let view := Json.object
      [("map", .string "doc => emit(doc.n, doc.n)"), ("reduce", .string "_sum")]
    let stamps (position : Nat) : Stamp := ⟨⟨.ofNat 128 position⟩, ⟨.ofNat 128 position⟩⟩
    let db := (new "db").after
      [.addDesign (.object [("views", .object [("total", view)])]) (some "numbers") (stamps 0)]
    let bodies : List Json :=
      [.object [("_id", .string "a"), ("n", .int 1)], .object [("_id", .string "_local/b")],
       .object [("_id", .string "a"), ("_deleted", .bool true)], .object [("n", .int 2)]]
    db.Reachable ∧ (∀ body ∈ bodies, body.isObject = true) ∧
      (∃ documents,
        db.addDocuments bodies stamps = (.ok documents, db.after (additions stamps bodies.zipIdx)) ∧
        (db.transcript (additions stamps bodies.zipIdx)).map Prod.snd =
          documents.map fun document => .ok (.document document)) ∧
      Json.null.isObject = false ∧
      ∃ position, (bodies ++ [Json.null]).findIdx? (!·.isObject) = some position ∧
        db.addDocuments (bodies ++ [Json.null]) stamps =
          (.error (.documentNotObjectAt position), db) := by
  intro view stamps db bodies
  have hdb : db.Reachable := ⟨_, _, rfl⟩
  have hbodies : ∀ body ∈ bodies, body.isObject = true := by decide
  have hnull : Json.null ∈ bodies ++ [Json.null] := List.mem_append_right _ List.mem_cons_self
  exact ⟨hdb, hbodies, (addDocuments_eq_each hdb bodies stamps).1 hbodies, rfl,
    (addDocuments_eq_each hdb (bodies ++ [Json.null]) stamps).2 .null hnull rfl⟩

end Database

end DocumentDb
