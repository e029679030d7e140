import DocumentDb.Proofs.Database.Operation
import DocumentDb.Proofs.Json.Decode

/-!
# Operations do not ask who is signed in

An operation of a database can fail for many causes: an id that is taken or missing, a body that is
no object, a view that does not compile. That the client is not signed in is none of them. It is a
cause that only the server gives, before any operation is called.
-/

namespace DocumentDb

/-! ### Designs and their views -/

lemma Reducer.ofName_ne_unauthorized (name : Option String) :
    ofName name ≠ .error .unauthorized := by
  unfold ofName
  split <;> simp

lemma View.compile_ne_unauthorized (name : String) (declaration : ViewDeclaration) :
    compile name declaration ≠ .error .unauthorized := by
  intro h
  rcases bind_eq_error_iff.mp h with h | ⟨reducer, -, h⟩
  · exact Reducer.ofName_ne_unauthorized declaration.reduce h
  · rcases bind_eq_error_iff.mp h with h | ⟨function, -, h⟩
    · obtain ⟨cause, -, hcause⟩ := mapError_eq_error_iff.mp h
      cases hcause
    · cases h

lemma DesignViews.compileInto_ne_unauthorized (views : Table View)
    (declared : Fields ViewDeclaration) : compileInto views declared ≠ .error .unauthorized := by
  induction declared generalizing views with
  | nil => simp [compileInto]
  | cons entry declared ih =>
    intro h
    rcases bind_eq_error_iff.mp h with h | ⟨view, -, h⟩
    · exact View.compile_ne_unauthorized entry.1 entry.2 h
    · exact ih _ h

lemma ViewEngine.addDesign_ne_unauthorized (engine : ViewEngine) (design : DesignDocument) :
    engine.addDesign design ≠ .error .unauthorized := by
  intro h
  rcases bind_eq_error_iff.mp h with h | ⟨compiled, -, h⟩
  · rcases bind_eq_error_iff.mp h with h | ⟨views, -, h⟩
    · exact DesignViews.compileInto_ne_unauthorized .empty design.views h
    · cases h
  · cases h

lemma DesignDocument.ofJson_ne_unauthorized (value : Json) :
    ofJson value ≠ .error .unauthorized := by
  intro h
  obtain ⟨cause, -, hcause⟩ := mapError_eq_error_iff.mp h
  cases hcause

/-! ### Operations -/

namespace Database

lemma designIdFor_ne_unauthorized (fields : Fields Json) (id : Option String) :
    designIdFor fields id ≠ .error .unauthorized := by
  unfold designIdFor
  split
  · split <;> simp
  · simp
  · simp

lemma addDocument_ne_unauthorized (db : Database) (body : Json) (id : Option String)
    (stamp : Stamp) : (db.addDocument body id stamp).1 ≠ .error .unauthorized := by
  cases hbody : body.isObject with
  | false => simp [addDocument_of_not_object db hbody]
  | true =>
    obtain ⟨fields, rfl⟩ := Json.isObject_iff.mp hbody
    simp [addDocument_object]

lemma addDesign_ne_unauthorized (db : Database) (body : Json) (id : Option String)
    (stamp : Stamp) : (db.addDesign body id stamp).1 ≠ .error .unauthorized := by
  cases body with
  | null | bool _ | number _ | string _ | array _ => simp [addDesign]
  | object fields =>
    cases hid : designIdFor fields id with
    | error error =>
      have hcause := designIdFor_ne_unauthorized fields id
      simpa [addDesign, hid] using hcause
    | ok own =>
      cases hviews : DesignDocument.ofJson (.object (Fields.put fields "_id" (.string own))) >>=
          db.views.addDesign with
      | error error =>
        simp only [addDesign, hid, hviews]
        rintro h
        cases h
        rcases bind_eq_error_iff.mp hviews with hdesign | ⟨design, -, hviews⟩
        · exact DesignDocument.ofJson_ne_unauthorized _ hdesign
        · exact ViewEngine.addDesign_ne_unauthorized db.views design hviews
      | ok views =>
        simp [addDesign, hid, hviews, Store.putDesign_object _ (isDesign_of_designIdFor hid)]

/-- That a client is not signed in is for the server to say: no operation fails with that. -/
theorem perform_ne_unauthorized (db : Database) (operation : Operation) :
    (db.perform operation).1 ≠ .error .unauthorized := by
  have hmap {α : Type} {outcome : Outcome α} (change : α → Answer)
      (h : outcome.1 ≠ .error .unauthorized) :
      (outcome.map change).1 ≠ .error .unauthorized := by
    obtain ⟨answer, after⟩ := outcome
    cases answer <;> simp_all [Outcome.map, Except.map]
  cases operation with
  | addDocument body id stamp => exact hmap _ (addDocument_ne_unauthorized db body id stamp)
  | createDocument body id stamp =>
    refine hmap _ ?_
    unfold createDocument
    split
    · simp
    · exact addDocument_ne_unauthorized db body id stamp
  | addDocuments bodies stamps =>
    refine hmap _ ?_
    cases hfirst : bodies.findIdx? (!·.isObject) with
    | some position => simp [addDocuments, hfirst]
    | none =>
      have hbodies : ∀ body ∈ bodies, body.isObject = true := by
        simpa [List.findIdx?_eq_none_iff] using hfirst
      simp [addDocuments_objects db hbodies]
  | deleteDocument id stamp =>
    refine hmap _ ?_
    unfold deleteDocument
    split
    · simp
    · exact addDocument_ne_unauthorized db _ none stamp
  | putLocal id body stamp =>
    refine hmap _ ?_
    cases body with
    | null | bool _ | number _ | string _ | array _ => simp [putLocal]
    | object fields => simp [putLocal, Store.add_object]
  | deleteLocal id =>
    refine hmap _ ?_
    unfold deleteLocal
    split <;> simp
  | addDesign body id stamp => exact hmap _ (addDesign_ne_unauthorized db body id stamp)
  | createDesign body id stamp =>
    refine hmap _ ?_
    unfold createDesign
    split
    · simp
    · exact addDesign_ne_unauthorized db body id stamp
  | deleteDesign id =>
    refine hmap _ ?_
    simp only [deleteDesign]
    split <;> simp
  | registerMap design view map =>
    refine hmap _ ?_
    cases hviews : db.views.registerMap (DocId.toDesign design) view map with
    | ok views => simp [registerMap, hviews]
    | error error =>
      simp only [registerMap, hviews]
      rintro h
      cases h
      unfold ViewEngine.registerMap at hviews
      split at hviews <;> cases hviews
  | addIndex | deleteIndex => simp [perform]
  | setSecurity update =>
    refine hmap _ ?_
    unfold setSecurity
    split
    · split <;> simp
    · simp

end Database

end DocumentDb
