import DocumentDb.Proofs.Database.Namespaces
import DocumentDb.Proofs.View.Declarations

/-!
# Views show the documents as they are

A view is never stale: after any calls, its rows are those that the map function in force emits for
the live documents of that moment, and its total is the one of these rows. Which map function is in
force is told by the calls and their answers alone (`ViewPrograms.after`): the one that the last
accepted design document declares, or one registered since.

The invariant is `UpToDate`. An operation that changes regular documents rebuilds every view, and
an operation that changes the program of a view rebuilds the views of its design document.
-/

namespace DocumentDb

/-! ### The programs in force -/

namespace ViewPrograms

/-- No view is declared. -/
def none : ViewPrograms := fun _ _ => Option.none

/-- The programs in force after a call that was answered. A call that fails changes none. -/
def after (programs : ViewPrograms) : Operation × Except Error Answer → ViewPrograms
  | (.addDesign body _ _, .ok (.document design))
  | (.createDesign body _ _, .ok (.document design)) => fun id name =>
    if id = design.id then declaredIn body name else programs id name
  | (.deleteDesign deleted, .ok _) => fun id name =>
    if id = DocId.toDesign deleted then Option.none else programs id name
  | (.registerMap design view map, .ok _) => fun id name =>
    if id = DocId.toDesign design ∧ name = view then (programs id name).map ({ · with map })
    else programs id name
  | _ => programs

/-- The programs in force after calls that were answered. -/
def inForce (transcript : List (Operation × Except Error Answer)) : ViewPrograms :=
  transcript.foldl after none

@[simp] lemma after_error (programs : ViewPrograms) (operation : Operation) (error : Error) :
    programs.after (operation, .error error) = programs := by
  cases operation <;> rfl

end ViewPrograms

/-! ### The invariant -/

namespace Database

/-- The views are those of the programs in force over the live documents, and every regular document
is one that views look at unless it is deleted. No program names a reducer that there is not. -/
structure UpToDate (db : Database) (programs : ViewPrograms) : Prop where
  regular : db.store.Regular
  views : ∀ id name, db.views.view? id name =
    (programs id name).map (·.viewOver name db.store.liveDocuments)
  reducers : ∀ id name program, programs id name = some program →
    program.reducer.map Reducer.name = program.reduce

end Database

/-- Of regular documents, the views look at those that are live. -/
lemma Store.Regular.filter_looksAt {store : Store} (h : store.Regular) :
    store.documents.values.filter View.looksAt = store.liveDocuments := by
  refine List.filter_congr fun document hdocument => ?_
  obtain ⟨id, hid⟩ := Table.mem_values_iff.mp hdocument
  simp [View.looksAt, (h id document hid).2]

/-- Building a view of a program gives the view of the program over the live documents. -/
lemma Store.Regular.build {store : Store} (h : store.Regular) {program : ViewProgram} {view : View}
    (hreducer : view.reducer = program.reducer) (hmap : view.map = program.map) :
    view.build store.documents.values = program.viewOver view.name store.liveDocuments := by
  rw [ViewProgram.build_eq_viewOver hreducer hmap, h.filter_looksAt]

namespace Database.UpToDate

variable {db : Database} {programs : ViewPrograms}

lemma init (name : String) : (new name).UpToDate .none where
  regular := Store.regular_empty
  views _ _ := rfl
  reducers _ _ _ h := nomatch h

/-- What leaves views and regular documents alone leaves the views up to date. -/
lemma of_eq (h : db.UpToDate programs) {after : Database} (hviews : after.views = db.views)
    (hdocuments : after.store.documents = db.store.documents) : after.UpToDate programs where
  regular := h.regular.of_documents_eq hdocuments
  views id name := by
    have hlive : after.store.liveDocuments = db.store.liveDocuments := by
      simp only [Store.liveDocuments, hdocuments]
    rw [hviews, hlive, h.views]
  reducers := h.reducers

/-- A rebuild brings the views up to date with any regular documents. -/
lemma rebuild (h : db.UpToDate programs) {store : Store} (hstore : store.Regular) :
    ({ db with store } : Database).rebuild.UpToDate programs where
  regular := hstore
  views id name := by
    rw [Database.rebuild, ViewEngine.view?_rebuildAll, h.views, Option.map_map]
    cases programs id name with
    | none => rfl
    | some program => exact congrArg some (hstore.build rfl rfl)
  reducers := h.reducers

lemma keep (h : db.UpToDate programs) (document : Document) :
    (db.keep document).UpToDate programs := by
  unfold Database.keep
  split
  · rename_i hlocal
    refine h.of_eq rfl ?_
    rw [Store.documents_keep, if_pos hlocal]
  · exact h.rebuild (h.regular.keep document)

/-- Storing a design document puts the programs of its body in force. -/
lemma keepDesign (h : db.UpToDate programs) {fields : Fields Json} {id : String}
    {design : DesignDocument} {views : ViewEngine} (stamp : Stamp)
    (hdesign : DesignDocument.ofJson (.object (Fields.put fields "_id" (.string id))) = .ok design)
    (hviews : db.views.addDesign design = .ok views) :
    (db.keepDesign (.writtenDesign fields id stamp) views).UpToDate fun other name =>
      if other = id then ViewPrograms.declaredIn (.object fields) name
      else programs other name where
  regular := h.regular.of_documents_eq rfl
  views other name := by
    rw [Database.keepDesign, Document.id_writtenDesign, ViewEngine.view?_rebuild]
    split
    · rename_i hother
      rw [hother, (ViewEngine.view?_addDesign hdesign hviews name).1, Option.map_map]
      cases ViewPrograms.declaredIn (.object fields) name with
      | none => rfl
      | some program => exact congrArg some (h.regular.build rfl rfl)
    · rename_i hother
      obtain ⟨rfl, -⟩ := DesignDocument.of_ofJson_ok hdesign
      rw [ViewEngine.view?_addDesign_of_ne hviews hother]
      exact h.views other name
  reducers other name program hprogram := by
    split at hprogram
    · exact (ViewEngine.view?_addDesign hdesign hviews name).2 program hprogram
    · exact h.reducers other name program hprogram

/-- Removing a design document leaves none of its programs in force. -/
lemma removeDesign (h : db.UpToDate programs) (id : String) :
    ({ db with
        store := (db.store.removeDesign id).2
        views := db.views.removeDesign id } : Database).UpToDate fun other name =>
      if other = id then none else programs other name where
  regular := h.regular.of_documents_eq rfl
  views other name := by
    simp only [ViewEngine.view?_removeDesign]
    split
    · rfl
    · exact h.views other name
  reducers other name program hprogram := by
    split at hprogram
    · cases hprogram
    · exact h.reducers other name program hprogram

/-- Registering a map function puts it in force. -/
lemma registerMap (h : db.UpToDate programs) {id view : String} {map : RowMap} {views : ViewEngine}
    (hviews : db.views.registerMap id view map = .ok views) :
    ({ db with views := views.rebuild id db.store.documents.values } : Database).UpToDate
      fun other name =>
        if other = id ∧ name = view then (programs other name).map ({ · with map })
        else programs other name where
  regular := h.regular
  views other name := by
    rw [ViewEngine.view?_rebuild, ViewEngine.view?_registerMap hviews, h.views]
    by_cases hother : other = id
    · rw [if_pos hother]
      cases programs other name with
      | none => split <;> rfl
      | some program =>
        split
        · exact congrArg some (h.regular.build rfl rfl)
        · exact congrArg some (h.regular.build rfl rfl)
    · simp only [hother, if_false, false_and]
  reducers other name program hprogram := by
    split at hprogram
    · obtain ⟨known, hknown, rfl⟩ := Option.map_eq_some_iff.mp hprogram
      exact h.reducers other name known hknown
    · exact h.reducers other name program hprogram

/-- Every operation leaves the views up to date with the programs then in force. -/
lemma performed (h : db.UpToDate programs) {operation : Operation} {answer : Except Error Answer}
    {after : Database} (hrule : Performed db operation answer after) :
    after.UpToDate (programs.after (operation, answer)) := by
  cases hrule with
  | fails operation error =>
    rw [ViewPrograms.after_error]
    exact h
  | addDocument fields id stamp => exact h.keep _
  | createDocument fields id stamp hfree => exact h.keep _
  | addDocuments bodies stamps hbodies => exact h.rebuild (h.regular.keepAll _)
  | deleteDocument id stamp document hlive => exact h.keep _
  | putLocal id fields stamp => exact h.keep _
  | deleteLocal id document hlocal => exact h.of_eq rfl rfl
  | addDesign fields given stamp id design views hid hdesign hviews =>
    simp only [ViewPrograms.after, Document.id_writtenDesign]
    exact h.keepDesign stamp hdesign hviews
  | createDesign fields given stamp id design views hfree hid hdesign hviews =>
    simp only [ViewPrograms.after, Document.id_writtenDesign]
    exact h.keepDesign stamp hdesign hviews
  | deleteDesign id document hdesign => exact h.removeDesign (DocId.toDesign id)
  | registerMap design view map views hviews => exact h.registerMap hviews
  | addIndex request freshDesign freshName => exact h.of_eq rfl rfl
  | deleteIndex design name => exact h.of_eq rfl rfl
  | setSecurity fields security hsecurity => exact h.of_eq rfl rfl

/-- Views that are up to date stay so through calls. -/
lemma run (h : db.UpToDate programs) (operations : List Operation) :
    (db.after operations).UpToDate
      ((db.transcript operations).foldl ViewPrograms.after programs) := by
  induction operations generalizing db programs with
  | nil => exact h
  | cons operation operations ih => exact ih (h.performed (Performed.of_perform db operation))

end Database.UpToDate

/-- After any calls on a new database, successful or not, the views are those whose programs are in
force, and each has the rows and the total of its program over the documents that are not deleted.
The programs name no other reducers than there are. -/
theorem Database.view?_after (name : String) (operations : List Operation) (id view : String) :
    ((new name).after operations).views.view? id view =
        ((ViewPrograms.inForce ((new name).transcript operations) id view).map fun program =>
          program.viewOver view
            (((new name).after operations).store.documents.values.filter (!·.deleted))) ∧
      ∀ program, ViewPrograms.inForce ((new name).transcript operations) id view = some program →
        program.reducer.map Reducer.name = program.reduce := by
  have h := (UpToDate.init name).run operations
  exact ⟨h.views id view, h.reducers id view⟩

/-- Of three documents one is deleted; one view counts those that are left and another sums them. -/
example :
    let view (reduce : String) := Json.object
      [("map", .string "doc => emit(doc._id, doc.n)"), ("reduce", .string reduce)]
    let numbers := Json.object
      [("views", .object [("number", view "_count"), ("total", view "_sum")])]
    let document (id : String) (n : Int) := Json.object [("_id", .string id), ("n", .int n)]
    let stamp : Stamp := ⟨⟨0⟩, ⟨1⟩⟩
    let db := (Database.new "db").after
      [.addDocument (document "a" 1) none stamp, .addDocument (document "b" 2) none stamp,
        .addDesign numbers (some "numbers") stamp, .addDocument (document "c" 4) none stamp,
        .deleteDocument "a" stamp]
    (db.views.view? "_design/numbers" "number").map View.total = some 2 ∧
      (db.views.view? "_design/numbers" "total").map View.total = some 6 := by
  decide +kernel

end DocumentDb
