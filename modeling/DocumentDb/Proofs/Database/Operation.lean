import DocumentDb.Database.Basic
import DocumentDb.Proofs.Store.Writes

/-!
# Operations of a database

The operations that change a database, as data: a call with its arguments and the random bits that
it draws. A database is reachable if calls in some order lead to it from a new one.

`Performed` says once what each operation can do. An operation either fails and leaves the database
as it was, or does what its rule says; `Performed.of_perform` derives the rule from the operation,
and later proofs take cases on the rule instead of unfolding the operations.
-/

namespace DocumentDb

/-! ### Calls and runs -/

/-- A call of an operation that changes a database. -/
inductive Operation
  | addDocument (body : Json) (id : Option String) (stamp : Stamp)
  | createDocument (body : Json) (id : Option String) (stamp : Stamp)
  | addDocuments (bodies : List Json) (stamps : Nat → Stamp)
  | deleteDocument (id : String) (stamp : Stamp)
  | putLocal (id : String) (body : Json) (stamp : Stamp)
  | deleteLocal (id : String)
  | addDesign (body : Json) (id : Option String) (stamp : Stamp)
  | createDesign (body : Json) (id : Option String) (stamp : Stamp)
  | deleteDesign (id : String)
  | registerMap (design view : String) (map : RowMap)
  | addIndex (request : IndexRequest) (freshDesign freshName : Uuid)
  | deleteIndex (design name : String)
  | setSecurity (update : Json)

/-- What an operation that succeeds answers with. -/
inductive Answer
  | document (document : Document)
  | documents (documents : List Document)
  | index (definition : IndexDefinition)
  | deleted (found : Bool)
  | done

/-- An outcome with its answer changed. -/
def Outcome.map {α β : Type} (outcome : Outcome α) (change : α → β) : Outcome β :=
  (outcome.1.map change, outcome.2)

namespace Database

/-- Carry a call out. -/
def perform (db : Database) : Operation → Outcome Answer
  | .addDocument body id stamp => (db.addDocument body id stamp).map .document
  | .createDocument body id stamp => (db.createDocument body id stamp).map .document
  | .addDocuments bodies stamps => (db.addDocuments bodies stamps).map .documents
  | .deleteDocument id stamp => (db.deleteDocument id stamp).map .document
  | .putLocal id body stamp => (db.putLocal id body stamp).map .document
  | .deleteLocal id => (db.deleteLocal id).map .document
  | .addDesign body id stamp => (db.addDesign body id stamp).map .document
  | .createDesign body id stamp => (db.createDesign body id stamp).map .document
  | .deleteDesign id => (db.deleteDesign id).map .document
  | .registerMap design view map => (db.registerMap design view map).map fun _ => .done
  | .addIndex request freshDesign freshName =>
    let (definition, db) := db.addIndex request freshDesign freshName
    (.ok (.index definition), db)
  | .deleteIndex design name =>
    let (found, db) := db.deleteIndex design name
    (.ok (.deleted found), db)
  | .setSecurity update => (db.setSecurity update).map fun _ => .done

/-- The database after calls, one after the other, whether they succeed or fail. -/
def after (db : Database) (operations : List Operation) : Database :=
  operations.foldl (fun db operation => (db.perform operation).2) db

/-- The calls with what each of them answers. -/
def transcript (db : Database) : List Operation → List (Operation × Except Error Answer)
  | [] => []
  | operation :: operations =>
    (operation, (db.perform operation).1) :: transcript (db.perform operation).2 operations

/-- A database that calls lead to from a new one. -/
def Reachable (db : Database) : Prop :=
  ∃ (name : String) (operations : List Operation), db = (new name).after operations

/-- What holds of a new database and is kept by every call holds of every reachable one. -/
theorem Reachable.induct {motive : Database → Prop} (init : ∀ name, motive (new name))
    (step : ∀ db operation, motive db → motive (db.perform operation).2) {db : Database}
    (h : db.Reachable) : motive db := by
  obtain ⟨name, operations, rfl⟩ := h
  generalize hstart : new name = start
  have hmotive : motive start := hstart ▸ init name
  clear hstart
  induction operations generalizing start with
  | nil => exact hmotive
  | cons operation operations ih => exact ih _ (step start operation hmotive)

/-! ### What the operations change -/

/-- The database after a document is put under its id. -/
def keep (db : Database) (document : Document) : Database :=
  if document.isLocal then { db with store := db.store.keep document }
  else { db with store := db.store.keep document }.rebuild

/-- The database after documents are put under their ids, in order. -/
def keepAll (db : Database) (documents : List Document) : Database :=
  { db with store := documents.foldl Store.keep db.store }.rebuild

/-- The database after a design document with compiled views is put under its id. -/
def keepDesign (db : Database) (design : Document) (views : ViewEngine) : Database :=
  { db with
    store := db.store.keepDesign design
    views := views.rebuild design.id db.store.documents.values }

/-- What an operation can do to a database. -/
inductive Performed (db : Database) : Operation → Except Error Answer → Database → Prop
  | fails (operation : Operation) (error : Error) : Performed db operation (.error error) db
  | addDocument (fields : Fields Json) (id : Option String) (stamp : Stamp) :
      Performed db (.addDocument (.object fields) id stamp)
        (.ok (.document (.written fields id stamp))) (db.keep (.written fields id stamp))
  | createDocument (fields : Fields Json) (id : Option String) (stamp : Stamp)
      (h : (requestedId (.object fields) id).filter db.store.documents.contains = none) :
      Performed db (.createDocument (.object fields) id stamp)
        (.ok (.document (.written fields id stamp))) (db.keep (.written fields id stamp))
  | addDocuments (bodies : List Json) (stamps : Nat → Stamp)
      (h : ∀ body ∈ bodies, body.isObject = true) :
      Performed db (.addDocuments bodies stamps)
        (.ok (.documents (Document.writtenAll stamps bodies.zipIdx)))
        (db.keepAll (Document.writtenAll stamps bodies.zipIdx))
  | deleteDocument (id : String) (stamp : Stamp) (document : Document)
      (h : db.store.live? id = some document) :
      Performed db (.deleteDocument id stamp) (.ok (.document (document.tombstone stamp)))
        (db.keep (document.tombstone stamp))
  | putLocal (id : String) (fields : Fields Json) (stamp : Stamp) :
      Performed db (.putLocal id (.object fields) stamp)
        (.ok (.document (.writtenLocal id fields stamp))) (db.keep (.writtenLocal id fields stamp))
  | deleteLocal (id : String) (document : Document)
      (h : db.store.locals.get? (DocId.toLocal id) = some document) :
      Performed db (.deleteLocal id) (.ok (.document document))
        { db with store := (db.store.removeLocal (DocId.toLocal id)).2 }
  | addDesign (fields : Fields Json) (given : Option String) (stamp : Stamp) (id : String)
      (design : DesignDocument) (views : ViewEngine) (hid : designIdFor fields given = .ok id)
      (hdesign : DesignDocument.ofJson (.object (Fields.put fields "_id" (.string id))) =
        .ok design)
      (hviews : db.views.addDesign design = .ok views) :
      Performed db (.addDesign (.object fields) given stamp)
        (.ok (.document (.writtenDesign fields id stamp)))
        (db.keepDesign (.writtenDesign fields id stamp) views)
  | createDesign (fields : Fields Json) (given : Option String) (stamp : Stamp) (id : String)
      (design : DesignDocument) (views : ViewEngine)
      (h : (requestedId (.object fields) (given.map DocId.toDesign)).filter
        db.store.designs.contains = none)
      (hid : designIdFor fields given = .ok id)
      (hdesign : DesignDocument.ofJson (.object (Fields.put fields "_id" (.string id))) =
        .ok design)
      (hviews : db.views.addDesign design = .ok views) :
      Performed db (.createDesign (.object fields) given stamp)
        (.ok (.document (.writtenDesign fields id stamp)))
        (db.keepDesign (.writtenDesign fields id stamp) views)
  | deleteDesign (id : String) (document : Document)
      (h : db.store.designs.get? (DocId.toDesign id) = some document) :
      Performed db (.deleteDesign id) (.ok (.document document))
        { db with
          store := (db.store.removeDesign (DocId.toDesign id)).2
          views := db.views.removeDesign (DocId.toDesign id) }
  | registerMap (design view : String) (map : RowMap) (views : ViewEngine)
      (h : db.views.registerMap (DocId.toDesign design) view map = .ok views) :
      Performed db (.registerMap design view map) (.ok .done)
        { db with views := views.rebuild (DocId.toDesign design) db.store.documents.values }
  | addIndex (request : IndexRequest) (freshDesign freshName : Uuid) :
      Performed db (.addIndex request freshDesign freshName)
        (.ok (.index (db.addIndex request freshDesign freshName).1))
        (db.addIndex request freshDesign freshName).2
  | deleteIndex (design name : String) :
      Performed db (.deleteIndex design name) (.ok (.deleted (db.deleteIndex design name).1))
        (db.deleteIndex design name).2
  | setSecurity (fields : Fields Json) (security : Security)
      (h : db.security.update fields = .ok security) :
      Performed db (.setSecurity (.object fields)) (.ok .done) { db with security }

/-! ### Each operation follows its rule -/

lemma addDocument_object (db : Database) (fields : Fields Json) (id : Option String)
    (stamp : Stamp) :
    db.addDocument (.object fields) id stamp =
      (.ok (.written fields id stamp), db.keep (.written fields id stamp)) := by
  simp only [addDocument, Store.add_object, keep]

lemma addDocument_of_not_object (db : Database) {body : Json} (h : body.isObject = false)
    (id : Option String) (stamp : Stamp) :
    db.addDocument body id stamp = (.error .documentNotObject, db) := by
  simp only [addDocument, Store.add_of_not_object _ h]

/-- Bodies that are objects are all stored. -/
lemma storeAll_objects (stamps : Nat → Stamp) (bodies : List (Json × Nat))
    (h : ∀ entry ∈ bodies, entry.1.isObject = true) (store : Store) :
    storeAll store stamps bodies =
      (.ok (Document.writtenAll stamps bodies),
        (Document.writtenAll stamps bodies).foldl Store.keep store) := by
  induction bodies generalizing store with
  | nil => rfl
  | cons entry bodies ih =>
    obtain ⟨body, position⟩ := entry
    obtain ⟨fields, rfl⟩ := Json.isObject_iff.mp (h _ List.mem_cons_self)
    have hrest := ih (fun entry hentry => h entry (List.mem_cons_of_mem _ hentry))
    simp only [storeAll, Store.add_object, hrest]
    rfl

lemma addDocuments_objects (db : Database) {bodies : List Json}
    (h : ∀ body ∈ bodies, body.isObject = true) (stamps : Nat → Stamp) :
    db.addDocuments bodies stamps =
      (.ok (Document.writtenAll stamps bodies.zipIdx),
        db.keepAll (Document.writtenAll stamps bodies.zipIdx)) := by
  have hnone : bodies.findIdx? (!·.isObject) = none := by
    simpa [List.findIdx?_eq_none_iff] using h
  have hentries : ∀ entry ∈ bodies.zipIdx, entry.1.isObject = true := by
    intro entry hentry
    exact h _ (List.fst_mem_of_mem_zipIdx hentry)
  simp only [addDocuments, hnone, storeAll_objects stamps _ hentries]
  rfl

/-- The id under which a design document is stored belongs to the design documents. -/
lemma isDesign_of_designIdFor {fields : Fields Json} {given : Option String} {id : String}
    (h : designIdFor fields given = .ok id) : DocId.isDesign id = true := by
  unfold designIdFor at h
  split at h
  · split at h
    · rename_i hdesign
      cases h
      exact hdesign
    · cases h
  · cases h
    exact DocId.isDesign_toDesign _
  · cases h

/-- A design document is stored once its id is well formed and its views compile. -/
lemma addDesign_object (db : Database) {fields : Fields Json} {given : Option String}
    {id : String} {design : DesignDocument} {views : ViewEngine} (stamp : Stamp)
    (hid : designIdFor fields given = .ok id)
    (hdesign : DesignDocument.ofJson (.object (Fields.put fields "_id" (.string id))) = .ok design)
    (hviews : db.views.addDesign design = .ok views) :
    db.addDesign (.object fields) given stamp =
      (.ok (.writtenDesign fields id stamp),
        db.keepDesign (.writtenDesign fields id stamp) views) := by
  have hbind : DesignDocument.ofJson (.object (Fields.put fields "_id" (.string id))) >>=
      db.views.addDesign = .ok views := by
    rw [hdesign]
    exact hviews
  simp only [addDesign, hid, hbind, Store.putDesign_object _ (isDesign_of_designIdFor hid),
    keepDesign, Document.id_writtenDesign]
  rfl

/-- Storing a design document fails without a change, or its views have been compiled. -/
lemma addDesign_cases (db : Database) (body : Json) (given : Option String) (stamp : Stamp) :
    (∃ error, db.addDesign body given stamp = (.error error, db)) ∨
      ∃ fields id design views, body = .object fields ∧ designIdFor fields given = .ok id ∧
        DesignDocument.ofJson (.object (Fields.put fields "_id" (.string id))) = .ok design ∧
        db.views.addDesign design = .ok views := by
  cases body with
  | null | bool _ | number _ | string _ | array _ => exact .inl ⟨_, rfl⟩
  | object fields =>
    cases hid : designIdFor fields given with
    | error error => exact .inl ⟨error, by simp only [addDesign, hid]⟩
    | ok id =>
      cases hdesign : DesignDocument.ofJson (.object (Fields.put fields "_id" (.string id))) with
      | error error =>
        exact .inl ⟨error, by simp only [addDesign, hid, hdesign, bind, Except.bind]⟩
      | ok design =>
        cases hviews : db.views.addDesign design with
        | error error =>
          exact .inl ⟨error, by simp only [addDesign, hid, hdesign, hviews, bind, Except.bind]⟩
        | ok views => exact .inr ⟨fields, id, design, views, rfl, hid, hdesign, hviews⟩

namespace Performed

/-- A call does what the rule of its operation says. -/
abbrev FollowsRule (db : Database) (operation : Operation) : Prop :=
  Performed db operation (db.perform operation).1 (db.perform operation).2

lemma of_addDocument (db : Database) (body : Json) (id : Option String) (stamp : Stamp) :
    FollowsRule db (.addDocument body id stamp) := by
  cases hbody : body.isObject with
  | false =>
    simp only [FollowsRule, perform, Outcome.map, addDocument_of_not_object db hbody]
    exact .fails _ _
  | true =>
    obtain ⟨fields, rfl⟩ := Json.isObject_iff.mp hbody
    simp only [FollowsRule, perform, Outcome.map, addDocument_object]
    exact .addDocument fields id stamp

lemma of_createDocument (db : Database) (body : Json) (id : Option String) (stamp : Stamp) :
    FollowsRule db (.createDocument body id stamp) := by
  cases htaken : (requestedId body id).filter db.store.documents.contains with
  | some taken =>
    simp only [FollowsRule, perform, Outcome.map, Database.createDocument, htaken]
    exact .fails _ _
  | none =>
    cases hbody : body.isObject with
    | false =>
      simp only [FollowsRule, perform, Outcome.map, Database.createDocument, htaken,
        addDocument_of_not_object db hbody]
      exact .fails _ _
    | true =>
      obtain ⟨fields, rfl⟩ := Json.isObject_iff.mp hbody
      simp only [FollowsRule, perform, Outcome.map, Database.createDocument, htaken,
        addDocument_object]
      exact .createDocument fields id stamp htaken

lemma of_addDocuments (db : Database) (bodies : List Json) (stamps : Nat → Stamp) :
    FollowsRule db (.addDocuments bodies stamps) := by
  cases hfirst : bodies.findIdx? (!·.isObject) with
  | some position =>
    simp only [FollowsRule, perform, Outcome.map, Database.addDocuments, hfirst]
    exact .fails _ _
  | none =>
    have hbodies : ∀ body ∈ bodies, body.isObject = true := by
      simpa [List.findIdx?_eq_none_iff] using hfirst
    simp only [FollowsRule, perform, Outcome.map, addDocuments_objects db hbodies]
    exact .addDocuments bodies stamps hbodies

lemma of_deleteDocument (db : Database) (id : String) (stamp : Stamp) :
    FollowsRule db (.deleteDocument id stamp) := by
  cases hlive : db.store.live? id with
  | none =>
    simp only [FollowsRule, perform, Outcome.map, Database.deleteDocument, hlive]
    exact .fails _ _
  | some document =>
    simp only [FollowsRule, perform, Outcome.map, Database.deleteDocument, hlive,
      addDocument_object]
    exact .deleteDocument id stamp document hlive

lemma of_putLocal (db : Database) (id : String) (body : Json) (stamp : Stamp) :
    FollowsRule db (.putLocal id body stamp) := by
  cases body with
  | null | bool _ | number _ | string _ | array _ => exact .fails _ _
  | object fields =>
    have hkeep : db.keep (.writtenLocal id fields stamp) =
        { db with store := db.store.keep (.writtenLocal id fields stamp) } :=
      if_pos (Document.isLocal_writtenLocal id fields stamp)
    simp only [FollowsRule, perform, Outcome.map, Database.putLocal, Store.add_object]
    have hrule := @Performed.putLocal db id fields stamp
    rw [hkeep] at hrule
    exact hrule

lemma of_deleteLocal (db : Database) (id : String) :
    FollowsRule db (.deleteLocal id) := by
  cases hlocal : db.store.locals.get? (DocId.toLocal id) with
  | none =>
    simp only [FollowsRule, perform, Outcome.map, Database.deleteLocal,
      Store.removeLocal_of_missing hlocal]
    exact .fails _ _
  | some document =>
    have hrule := @Performed.deleteLocal db id document hlocal
    simp only [FollowsRule, perform, Outcome.map, Database.deleteLocal, Store.removeLocal,
      hlocal] at hrule ⊢
    exact hrule

lemma of_addDesign (db : Database) (body : Json) (id : Option String) (stamp : Stamp) :
    FollowsRule db (.addDesign body id stamp) := by
  rcases addDesign_cases db body id stamp with
    ⟨error, h⟩ | ⟨fields, own, design, views, rfl, hid, hdesign, hviews⟩
  · simp only [FollowsRule, perform, Outcome.map, h]
    exact .fails _ _
  · simp only [FollowsRule, perform, Outcome.map, addDesign_object db stamp hid hdesign hviews]
    exact .addDesign fields id stamp own design views hid hdesign hviews

lemma of_createDesign (db : Database) (body : Json) (id : Option String) (stamp : Stamp) :
    FollowsRule db (.createDesign body id stamp) := by
  cases htaken : (requestedId body (id.map DocId.toDesign)).filter db.store.designs.contains with
  | some taken =>
    simp only [FollowsRule, perform, Outcome.map, Database.createDesign, htaken]
    exact .fails _ _
  | none =>
    rcases addDesign_cases db body id stamp with
      ⟨error, h⟩ | ⟨fields, own, design, views, rfl, hid, hdesign, hviews⟩
    · simp only [FollowsRule, perform, Outcome.map, Database.createDesign, htaken, h]
      exact .fails _ _
    · simp only [FollowsRule, perform, Outcome.map, Database.createDesign, htaken,
        addDesign_object db stamp hid hdesign hviews]
      exact .createDesign fields id stamp own design views htaken hid hdesign hviews

lemma of_deleteDesign (db : Database) (id : String) :
    FollowsRule db (.deleteDesign id) := by
  cases hdesign : db.store.designs.get? (DocId.toDesign id) with
  | none =>
    simp only [FollowsRule, perform, Outcome.map, Database.deleteDesign,
      Store.removeDesign_of_missing hdesign]
    exact .fails _ _
  | some document =>
    have hrule := @Performed.deleteDesign db id document hdesign
    simp only [FollowsRule, perform, Outcome.map, Database.deleteDesign, Store.removeDesign,
      hdesign] at hrule ⊢
    exact hrule

lemma of_registerMap (db : Database) (design view : String) (map : RowMap) :
    FollowsRule db (.registerMap design view map) := by
  cases hviews : db.views.registerMap (DocId.toDesign design) view map with
  | error error =>
    simp only [FollowsRule, perform, Outcome.map, Database.registerMap, hviews]
    exact .fails _ _
  | ok views =>
    simp only [FollowsRule, perform, Outcome.map, Database.registerMap, hviews]
    exact .registerMap design view map views hviews

lemma of_setSecurity (db : Database) (update : Json) :
    FollowsRule db (.setSecurity update) := by
  cases update with
  | null | bool _ | number _ | string _ | array _ => exact .fails _ _
  | object fields =>
    cases hsecurity : db.security.update fields with
    | error cause =>
      simp only [FollowsRule, perform, Outcome.map, Database.setSecurity, hsecurity]
      exact .fails _ _
    | ok security =>
      simp only [FollowsRule, perform, Outcome.map, Database.setSecurity, hsecurity]
      exact .setSecurity fields security hsecurity

/-- Every operation follows its rule. -/
theorem of_perform (db : Database) (operation : Operation) :
    Performed db operation (db.perform operation).1 (db.perform operation).2 := by
  cases operation with
  | addDocument body id stamp => exact of_addDocument db body id stamp
  | createDocument body id stamp => exact of_createDocument db body id stamp
  | addDocuments bodies stamps => exact of_addDocuments db bodies stamps
  | deleteDocument id stamp => exact of_deleteDocument db id stamp
  | putLocal id body stamp => exact of_putLocal db id body stamp
  | deleteLocal id => exact of_deleteLocal db id
  | addDesign body id stamp => exact of_addDesign db body id stamp
  | createDesign body id stamp => exact of_createDesign db body id stamp
  | deleteDesign id => exact of_deleteDesign db id
  | registerMap design view map => exact of_registerMap db design view map
  | addIndex request freshDesign freshName => exact .addIndex request freshDesign freshName
  | deleteIndex design name => exact .deleteIndex design name
  | setSecurity update => exact of_setSecurity db update

/-- A call whose outcome is an error leaves the database as it was. -/
lemma unchanged {α : Type} {db : Database} {operation : Operation} {outcome : Outcome α}
    {change : α → Answer}
    (h : Performed db operation (outcome.map change).1 (outcome.map change).2) {error : Error}
    (herror : outcome.1 = .error error) : outcome.2 = db := by
  obtain ⟨answer, after⟩ := outcome
  subst herror
  cases h with
  | fails => rfl

end Performed

end Database

end DocumentDb
