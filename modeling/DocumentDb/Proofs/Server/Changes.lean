import DocumentDb.Proofs.Database.Causes
import DocumentDb.Proofs.Database.Recompiling
import DocumentDb.Proofs.Server.ErrorAnswers

/-!
# What handlers change

A handler changes the databases by one step at most: a database is created or dropped, or one
operation is called on a database that is there. `Handler.Makes` says so, and that the handler
neither touches the session nor answers that the client is not signed in. All handlers but those of
the session are of this kind.
-/

namespace DocumentDb

/-! ### Changes -/

namespace Server

/-- A change of the databases of an instance. -/
inductive Change
  | create (name : String)
  | drop (name : String)
  | perform (name : String) (operation : Operation)

namespace Change

/-- The instance after a change. An operation is called only on a database that is there. -/
def apply (i : Instance) : Change → Instance
  | create name => i.addDatabase name
  | drop name => (i.deleteDatabase name).2
  | perform name operation =>
    match i.database? name with
    | some db => i.setDatabase name (db.perform operation).2
    | none => i

/-- Whether a request can make a change. -/
def OfRequest : Change → Prop
  | create _ | drop _ => True
  | perform _ operation => operation.OfRequest

/-- Whether a change leaves the design documents of databases alone, and the databases where they
are. -/
def KeepsDesigns : Change → Prop
  | create _ => True
  | drop _ => False
  | perform _ operation => operation.KeepsDesigns

lemma KeepsDesigns.ofRequest {change : Change} (h : change.KeepsDesigns) : change.OfRequest := by
  cases change with
  | create | drop => trivial
  | perform name operation => exact Operation.KeepsDesigns.ofRequest h

lemma user_apply (i : Instance) (change : Change) : (change.apply i).user = i.user := by
  cases change with
  | create name =>
    simp only [apply, Instance.addDatabase]
    split <;> rfl
  | drop name =>
    simp only [apply, Instance.deleteDatabase]
    split <;> rfl
  | perform name operation =>
    simp only [apply]
    split <;> rfl

end Change

/-! ### Denials -/

/-- Whether an answer says that the client is not signed in. -/
def Answer.IsDenial (answer : Answer) : Prop := answer.response.status = 401

lemma Answer.isDenial_error_iff {failure : Failure} :
    IsDenial (.error failure) ↔ failure = .operation .unauthorized := by
  cases failure with
  | operation cause =>
    cases cause <;>
      simp [IsDenial, response, Failure.response, Failure.ofError, Error.kind, Failure.report,
        Response.json]
  | _ =>
    simp [IsDenial, response, Failure.response, Failure.report, Response.json, Response.text]

lemma Answer.not_isDenial_json {status : Nat} (h : status ≠ 401) (value : Json) :
    ¬ IsDenial (.ok (.json status value)) := h

namespace Handler

/-- What is taken from requests does not depend on who is signed in. -/
def NeverDenies {α : Type} (take : Request → Except Failure α) : Prop :=
  ∀ request, take request ≠ .error (.operation .unauthorized)

@[simp] lemma segment_ne_denial (raw : String) :
    segment raw ≠ .error (.operation .unauthorized) := by
  unfold segment
  split <;> simp

@[simp] lemma jsonBody_ne_denial (request : Request) :
    jsonBody request ≠ .error (.operation .unauthorized) := by
  unfold jsonBody
  split
  · simp
  · split <;> simp

@[simp] lemma decoded_ne_denial {α : Type} (value : Decoded α) :
    decoded value ≠ .error (.operation .unauthorized) := by
  cases value <;> simp [decoded, Except.mapError]

@[simp] lemma viewQuery_ne_denial (request : Request) :
    viewQuery request ≠ .error (.operation .unauthorized) := by
  intro h
  unfold viewQuery at h
  cases hparams : ViewParams.ofPairs (Form.pairs request.query) with
  | ok params => simp [hparams, Except.map] at h
  | error failure =>
    obtain rfl : failure = .operation .unauthorized := by simpa [hparams, Except.map] using h
    -- one of the six options may come twice
    iterate 6
      rcases bind_eq_error_iff.mp hparams with hoption | ⟨_, -, hparams⟩
      · beta_reduce at hoption
        split at hoption <;> cases hoption
    cases hparams

@[simp] lemma destination_ne_denial (request : Request) :
    destination request ≠ .error (.operation .unauthorized) := by
  unfold destination
  split
  · split <;> simp
  · simp

@[simp] lemma bodyKeys_ne_denial (body : Json) :
    bodyKeys body ≠ .error (.operation .unauthorized) := by
  unfold bodyKeys
  split
  · simp
  · split <;> simp

lemma requestWith_ne_denial {α : Type} (key : String) (decode : Json → Decoded α) (body : Json) :
    requestWith key decode body ≠ .error (.operation .unauthorized) := by
  unfold requestWith
  split <;> simp

/-! ### Handlers that make one change at most -/

/-- A handler that makes one change at most, of a kind that is allowed, that leaves the session as
it is, and that answers to everyone. -/
structure Makes (allowed : Change → Prop) (handler : Handler) : Prop where
  change : ∀ context i, (handler context i).2 = i ∨
    ∃ change, allowed change ∧ (handler context i).2 = change.apply i
  not_denial : ∀ context i, ¬ (handler context i).1.IsDenial

lemma Makes.mono {allowed more : Change → Prop} {handler : Handler} (h : handler.Makes allowed)
    (hmore : ∀ {change}, allowed change → more change) : handler.Makes more where
  change context i :=
    (h.change context i).imp_right fun ⟨change, hchange, hafter⟩ => ⟨change, hmore hchange, hafter⟩
  not_denial := h.not_denial

section

variable {allowed : Change → Prop}

lemma makes_fixed {response : Response} (h : response.status ≠ 401) :
    (fixed response).Makes allowed :=
  ⟨fun _ _ => .inl rfl, fun _ _ => h⟩

lemma makes_reading {answer : Context → Instance → Answer}
    (h : ∀ context i, ¬ (answer context i).IsDenial) : (reading answer).Makes allowed :=
  ⟨fun _ _ => .inl rfl, h⟩

lemma makes_readingDatabase {name : String} {answer : Context → Database → Answer}
    (h : ∀ context db, ¬ (answer context db).IsDenial) :
    (readingDatabase name answer).Makes allowed := by
  refine makes_reading fun context i => ?_
  split
  · simp [Answer.isDenial_error_iff]
  · exact h context _

lemma makes_taking {α : Type} {take : Request → Except Failure α} {next : α → Handler}
    (htake : NeverDenies take) (h : ∀ taken, (next taken).Makes allowed) :
    (taking take next).Makes allowed := by
  constructor
  · intro context i
    unfold taking
    split
    · exact .inl rfl
    · exact (h _).change context i
  · intro context i
    unfold taking
    split
    · rename_i failure hfailure
      rw [Answer.isDenial_error_iff]
      rintro rfl
      exact htake context.request hfailure
    · exact (h _).not_denial context i

/-- An answer to everyone from a database, of which one operation is called at most. -/
structure Calls (allowed : Operation → Prop) (db : Database) (result : Answer × Database) :
    Prop where
  not_denial : ¬ result.1.IsDenial
  after : result.2 = db ∨ ∃ operation, allowed operation ∧ result.2 = (db.perform operation).2

/-- A handler that calls one operation of a database makes the change of that operation. -/
lemma makes_changingDatabase {name : String} {act : Context → Database → Answer × Database}
    (h : ∀ context db, Calls (fun operation => allowed (.perform name operation)) db
      (act context db)) :
    (changingDatabase name act).Makes allowed := by
  constructor
  · intro context i
    unfold changingDatabase
    split
    · exact .inl rfl
    · rename_i db hdb
      rcases (h context db).after with hafter | ⟨operation, hallowed, hafter⟩
      · exact .inl (by simp only [hafter, setDatabase_self hdb])
      · refine .inr ⟨_, hallowed, ?_⟩
        simp only [Change.apply, hdb, hafter]
  · intro context i
    unfold changingDatabase
    split
    · simp [Answer.isDenial_error_iff]
    · exact (h context _).not_denial

end

/-- The answer to an operation is no denial. -/
lemma not_isDenial_answering {α : Type} {respond : α → Response} {outcome : Except Error α}
    (hrespond : ∀ value, ¬ Answer.IsDenial (.ok (respond value)))
    (h : outcome ≠ .error .unauthorized) : ¬ (answering respond outcome).IsDenial := by
  cases outcome with
  | ok value => exact hrespond value
  | error cause =>
    simp only [answering, Answer.isDenial_error_iff, Failure.operation.injEq]
    rintro rfl
    exact h rfl

/-- An operation of the database does not fail because the client is not signed in. -/
lemma outcome_ne_unauthorized {α : Type} {db : Database} {operation : Operation}
    {outcome : Outcome α} {change : α → DocumentDb.Answer}
    (h : db.perform operation = outcome.map change) : outcome.1 ≠ .error .unauthorized := by
  intro herror
  apply Database.perform_ne_unauthorized db operation
  rw [h, Outcome.map, herror]
  rfl

/-- An operation is called and its outcome answered. -/
lemma calls_answered {α : Type} {allowed : Operation → Prop} {db : Database}
    {respond : α → Response} {outcome : Outcome α} {change : α → DocumentDb.Answer}
    (operation : Operation) (hallowed : allowed operation)
    (h : db.perform operation = outcome.map change)
    (hrespond : ∀ value, ¬ Answer.IsDenial (.ok (respond value))) :
    Calls allowed db (answered respond outcome) where
  not_denial := not_isDenial_answering hrespond (outcome_ne_unauthorized h)
  after := .inr ⟨operation, hallowed, by rw [h]; rfl⟩

/-! ### The handlers that write -/

lemma makes_createDatabase (raw : String) : (createDatabase raw).Makes Change.KeepsDesigns := by
  refine makes_taking (fun _ => segment_ne_denial raw) fun name => ⟨fun context i => ?_, ?_⟩
  · refine .inr ⟨.create name, trivial, ?_⟩
    by_cases hexists : i.databases.contains name = true
    · simp only [Change.apply, Instance.createDatabase, Instance.addDatabase, hexists, if_true]
    · simp only [Change.apply, Instance.createDatabase, hexists, if_false, Bool.false_eq_true]
  · intro context i
    refine not_isDenial_answering (fun _ => Answer.not_isDenial_json (by decide) _) ?_
    unfold Instance.createDatabase
    split <;> simp

lemma makes_dropDatabase (raw : String) : (dropDatabase raw).Makes Change.OfRequest := by
  refine makes_taking (fun _ => segment_ne_denial raw) fun name => ⟨fun context i => ?_, ?_⟩
  · refine .inr ⟨.drop name, trivial, ?_⟩
    simp only [Change.apply]
    rcases i.deleteDatabase name with ⟨error | done, after⟩ <;> rfl
  · intro context i
    rcases i.deleteDatabase name with ⟨error | done, after⟩
    · simp [Answer.isDenial_error_iff]
    · exact Answer.not_isDenial_json (by decide) _

lemma not_isDenial_receipt {status : Nat} (h : status ≠ 401) (document : Document) :
    ¬ Answer.IsDenial (.ok (receipt status document)) :=
  Answer.not_isDenial_json h document.receipt

lemma not_isDenial_created (config : Config) (name : String) (document : Document) :
    ¬ (created config name document).IsDenial := by
  dsimp only [created]
  split
  · exact Answer.not_isDenial_json (by decide : 201 ≠ 401) document.receipt
  · simp [Answer.isDenial_error_iff]

/-- A document is created even where its location cannot be sent. -/
lemma makes_postDocument (raw : String) : (postDocument raw).Makes Change.KeepsDesigns := by
  refine makes_taking (fun _ => ?_) fun (name, body) => makes_changingDatabase fun context db => ?_
  · simp [bind_eq_error_iff]
  have hcreates : Calls Operation.KeepsDesigns db
      (answered (receipt 201) (db.createDocument body none context.stamp)) :=
    calls_answered (.createDocument body none context.stamp) trivial rfl
      (not_isDenial_receipt (by decide))
  rcases hcreate : db.createDocument body none context.stamp with ⟨error | document, after⟩
  · rw [hcreate] at hcreates
    exact hcreates
  · rw [hcreate] at hcreates
    refine ⟨?_, hcreates.after⟩
    dsimp only
    exact not_isDenial_created context.config name document

lemma makes_putDocument (raw rawId : String) :
    (putDocument raw rawId).Makes Change.KeepsDesigns := by
  refine makes_taking (fun _ => ?_) fun (name, id, body) =>
    makes_changingDatabase fun context db => ?_
  · simp [bind_eq_error_iff]
  · exact calls_answered (.createDocument body (some id) context.stamp) trivial rfl
      (not_isDenial_receipt (by decide))

lemma makes_deleteDocument (raw rawId : String) :
    (deleteDocument raw rawId).Makes Change.KeepsDesigns := by
  refine makes_taking (fun _ => ?_) fun (name, id) => makes_changingDatabase fun context db => ?_
  · simp [bind_eq_error_iff]
  · exact calls_answered (.deleteDocument id context.stamp) trivial rfl
      (not_isDenial_receipt (by decide))

lemma makes_bulkDocs (raw : String) : (bulkDocs raw).Makes Change.KeepsDesigns := by
  refine makes_taking (fun _ => ?_) fun (name, bodies) =>
    makes_changingDatabase fun context db => ?_
  · simp [bind_eq_error_iff]
  · exact calls_answered (.addDocuments bodies context.stamps) trivial rfl
      fun documents => Answer.not_isDenial_json (by decide) _

lemma makes_putLocal (raw rawId : String) : (putLocal raw rawId).Makes Change.KeepsDesigns := by
  refine makes_taking (fun _ => ?_) fun (name, id, body) =>
    makes_changingDatabase fun context db => ?_
  · simp [bind_eq_error_iff]
  · exact calls_answered (.putLocal id body context.stamp) trivial rfl
      (not_isDenial_receipt (by decide))

lemma makes_deleteLocal (raw rawId : String) :
    (deleteLocal raw rawId).Makes Change.KeepsDesigns := by
  refine makes_taking (fun _ => ?_) fun (name, id) => makes_changingDatabase fun _ db => ?_
  · simp [bind_eq_error_iff]
  · exact calls_answered (.deleteLocal id) trivial rfl (not_isDenial_receipt (by decide))

/-- A failure that is no denial calls nothing. -/
lemma calls_nothing {allowed : Operation → Prop} {db : Database} {failure : Failure}
    (h : failure ≠ .operation .unauthorized) : Calls allowed db (.error failure, db) :=
  ⟨fun hdenial => h (Answer.isDenial_error_iff.mp hdenial), .inl rfl⟩

lemma makes_copyLocal (raw rawId : String) : (copyLocal raw rawId).Makes Change.KeepsDesigns := by
  refine makes_taking (fun _ => ?_) fun (name, id, copy) =>
    makes_changingDatabase fun context db => ?_
  · simp [bind_eq_error_iff, ite_eq_iff]
  · cases db.local? id with
    | none => exact calls_nothing nofun
    | some document =>
      by_cases htaken : (db.local? copy).isSome = true
      · simp only [htaken, if_true]
        exact calls_nothing nofun
      · simp only [htaken, if_false, Bool.false_eq_true]
        exact calls_answered (.putLocal copy (.object document.body) context.stamp) trivial rfl
          (not_isDenial_receipt (by decide))

lemma makes_putDesign (raw rawId : String) : (putDesign raw rawId).Makes Change.OfRequest := by
  refine makes_taking (fun _ => ?_) fun (name, id, body) =>
    makes_changingDatabase fun context db => ?_
  · simp [bind_eq_error_iff]
  · exact calls_answered (.createDesign body (some id) context.stamp) trivial rfl
      (not_isDenial_receipt (by decide))

lemma makes_deleteDesign (raw rawId : String) :
    (deleteDesign raw rawId).Makes Change.OfRequest := by
  refine makes_taking (fun _ => ?_) fun (name, id) => makes_changingDatabase fun context db => ?_
  · simp [bind_eq_error_iff]
  have hdeletes : Calls Operation.OfRequest db (answered (receipt 200) (db.deleteDesign id)) :=
    calls_answered (.deleteDesign id) trivial rfl (not_isDenial_receipt (by decide))
  rcases hdelete : db.deleteDesign id with ⟨error | document, after⟩
  · rw [hdelete] at hdeletes
    exact ⟨by simp [Answer.isDenial_error_iff], hdeletes.after⟩
  · rw [hdelete] at hdeletes
    exact hdeletes

lemma makes_copyDesign (raw rawId : String) : (copyDesign raw rawId).Makes Change.OfRequest := by
  refine makes_taking (fun _ => ?_) fun (name, id, copy) =>
    makes_changingDatabase fun context db => ?_
  · simp [bind_eq_error_iff, ite_eq_iff]
  · cases db.design? id with
    | none => exact calls_nothing nofun
    | some document =>
      exact calls_answered (.createDesign (.object document.body) (some copy) context.stamp)
        trivial rfl (not_isDenial_receipt (by decide))

lemma makes_createIndex (raw : String) : (createIndex raw).Makes Change.KeepsDesigns := by
  refine makes_taking (fun _ => ?_) fun (name, body) => makes_changingDatabase fun context db => ?_
  · simp [bind_eq_error_iff]
  cases hrequest : requestWith "index" IndexRequest.decode body with
  | error failure =>
    refine calls_nothing ?_
    rintro rfl
    exact requestWith_ne_denial "index" IndexRequest.decode body hrequest
  | ok request =>
    refine ⟨Answer.not_isDenial_json (by decide) _, .inr ?_⟩
    exact ⟨.addIndex request context.stamp.id context.stamp.token, trivial, rfl⟩

lemma makes_deleteIndex (raw rawDesign rawKind rawName : String) :
    (deleteIndex raw rawDesign rawKind rawName).Makes Change.KeepsDesigns := by
  refine makes_taking (fun _ => ?_) fun (name, design, index) =>
    makes_changingDatabase fun _ db => ⟨?_, .inr ⟨.deleteIndex design index, trivial, rfl⟩⟩
  · simp [bind_eq_error_iff]
  · simp only
    split
    · exact Answer.not_isDenial_json (by decide) _
    · simp [Answer.isDenial_error_iff]

lemma makes_putSecurity (raw : String) : (putSecurity raw).Makes Change.KeepsDesigns := by
  refine makes_taking (fun _ => ?_) fun (name, body) => makes_changingDatabase fun _ db => ?_
  · simp [bind_eq_error_iff]
  · exact calls_answered (.setSecurity body) trivial rfl
      fun _ => Answer.not_isDenial_json (by decide) _

/-! ### The handlers that read -/

section

variable {allowed : Change → Prop}

lemma makes_showDatabase (raw : String) : (showDatabase raw).Makes allowed :=
  makes_taking (fun _ => segment_ne_denial raw) fun _ => makes_readingDatabase fun _ _ =>
    Answer.not_isDenial_json (by decide) _

lemma makes_getDocument (raw rawId : String) : (getDocument raw rawId).Makes allowed := by
  refine makes_taking (fun _ => ?_) fun (name, id) => makes_readingDatabase fun _ db => ?_
  · simp [bind_eq_error_iff]
  · split
    · split
      · simp [Answer.isDenial_error_iff]
      · exact Answer.not_isDenial_json (by decide) _
    · simp [Answer.isDenial_error_iff]

lemma makes_bulkGet (raw : String) : (bulkGet raw).Makes allowed := by
  refine makes_taking (fun _ => ?_) fun (name, ids) => makes_readingDatabase fun _ db => ?_
  · simp [bind_eq_error_iff]
  · exact Answer.not_isDenial_json (by decide) _

lemma makes_revisions {raw : String} {shown : List String → List String} {respond : Json → Response}
    (h : ∀ value, (respond value).status ≠ 401) : (revisions raw shown respond).Makes allowed := by
  refine makes_taking (fun _ => ?_) fun (name, body) => makes_readingDatabase fun _ _ => ?_
  · simp [bind_eq_error_iff]
  cases hbyId : decoded (revisionsById body) with
  | error failure =>
    simp only [Except.map, Answer.isDenial_error_iff]
    rintro rfl
    exact decoded_ne_denial _ hbyId
  | ok byId => exact h _

lemma makes_purge (raw : String) : (purge raw).Makes allowed :=
  makes_revisions fun _ => (by decide : 201 ≠ 401)

lemma makes_missingRevisions (raw : String) : (missingRevisions raw).Makes allowed :=
  makes_revisions fun _ => (by decide : 200 ≠ 401)

lemma makes_getLocal (raw rawId : String) : (getLocal raw rawId).Makes allowed := by
  refine makes_taking (fun _ => ?_) fun (name, id) => makes_readingDatabase fun _ db => ?_
  · simp [bind_eq_error_iff]
  · split
    · exact Answer.not_isDenial_json (by decide) _
    · simp [Answer.isDenial_error_iff]

lemma makes_getDesign (raw rawId : String) : (getDesign raw rawId).Makes allowed := by
  refine makes_taking (fun _ => ?_) fun (name, id) => makes_readingDatabase fun _ db => ?_
  · simp [bind_eq_error_iff]
  · split
    · exact Answer.not_isDenial_json (by decide) _
    · simp [Answer.isDenial_error_iff]

lemma makes_queryView (raw rawDesign rawView : String) :
    (queryView raw rawDesign rawView).Makes allowed := by
  refine makes_taking (fun _ => ?_) fun (name, design, view, query) =>
    makes_readingDatabase fun _ db => ?_
  · simp [bind_eq_error_iff]
  · refine not_isDenial_answering (fun _ => Answer.not_isDenial_json (by decide) _) ?_
    unfold Database.view ViewEngine.query
    split
    · simp
    · split <;> simp

lemma makes_showDesign (raw rawDesign : String) : (showDesign raw rawDesign).Makes allowed := by
  refine makes_taking (fun _ => ?_) fun (name, design) => makes_readingDatabase fun _ db => ?_
  · simp [bind_eq_error_iff]
  · refine not_isDenial_answering (fun _ => Answer.not_isDenial_json (by decide) _) ?_
    unfold Database.designInfo
    split <;> simp

lemma makes_list (listing : Listing) (raw : String) : (list listing raw).Makes allowed := by
  refine makes_taking (fun _ => ?_) fun (name, query) => makes_readingDatabase fun _ db => ?_
  · simp [bind_eq_error_iff]
  · exact Answer.not_isDenial_json (by decide) _

lemma makes_listKeys (listing : Listing) (raw : String) :
    (listKeys listing raw).Makes allowed := by
  refine makes_taking (fun _ => ?_) fun (name, query, keys) => makes_readingDatabase fun _ db => ?_
  · simp [bind_eq_error_iff]
  · exact Answer.not_isDenial_json (by decide) _

lemma makes_find (raw : String) : (Handler.find raw).Makes allowed := by
  refine makes_taking (fun _ => ?_) fun (name, body) => makes_readingDatabase fun _ db => ?_
  · simp [bind_eq_error_iff]
  cases hrequest : requestWith "selector" FindRequest.decode body with
  | error failure =>
    simp only [Answer.isDenial_error_iff]
    rintro rfl
    exact requestWith_ne_denial "selector" FindRequest.decode body hrequest
  | ok request =>
    refine not_isDenial_answering (fun _ => Answer.not_isDenial_json (by decide) _) ?_
    unfold Database.find DocumentDb.find
    split <;> simp

lemma makes_listIndexes (raw : String) : (listIndexes raw).Makes allowed :=
  makes_taking (fun _ => segment_ne_denial raw) fun _ => makes_readingDatabase fun _ _ =>
    Answer.not_isDenial_json (by decide) _

lemma makes_showSecurity (raw : String) : (showSecurity raw).Makes allowed :=
  makes_taking (fun _ => segment_ne_denial raw) fun _ => makes_readingDatabase fun _ _ =>
    Answer.not_isDenial_json (by decide) _

lemma makes_forDatabase {raw : String} {response : Response} (h : response.status ≠ 401) :
    (forDatabase raw response).Makes allowed :=
  makes_taking (fun _ => segment_ne_denial raw) fun _ => makes_readingDatabase fun _ _ => h

lemma makes_forDatabaseAnd {raw rawId : String} {response : Response} (h : response.status ≠ 401) :
    (forDatabaseAnd raw rawId response).Makes allowed := by
  refine makes_taking (fun _ => ?_) fun (name, id) => makes_readingDatabase fun _ _ => h
  simp [bind_eq_error_iff]

lemma mapM_segment_ne_denial (segments : List String) :
    segments.mapM segment ≠ .error (.operation .unauthorized) := by
  induction segments with
  | nil => simp [pure, Except.pure]
  | cons raw segments ih =>
    intro h
    rw [List.mapM_cons] at h
    rcases bind_eq_error_iff.mp h with h | ⟨name, -, h⟩
    · exact segment_ne_denial raw h
    · rcases bind_eq_error_iff.mp h with h | ⟨names, -, h⟩
      · exact ih h
      · cases h

lemma makes_databaseReports : databaseReports.Makes allowed := by
  refine makes_taking jsonBody_ne_denial fun body => makes_reading fun _ i => ?_
  split
  · exact Answer.not_isDenial_json (by decide) _
  · simp [Answer.isDenial_error_iff]

lemma makes_uuids : uuids.Makes allowed := by
  refine makes_taking (fun request => ?_) fun count => makes_reading fun _ _ => ?_
  · split <;> simp
  · exact Answer.not_isDenial_json (by decide) _

lemma makes_reshardJob (raw : String) : (reshardJob raw).Makes allowed :=
  makes_taking (fun _ => segment_ne_denial raw) fun _ => makes_fixed (by decide : 200 ≠ 401)

lemma makes_unavailableAt (segments : List String) : (unavailableAt segments).Makes allowed :=
  makes_taking (fun _ => mapM_segment_ne_denial segments) fun _ => makes_fixed (by decide)

end

end Handler

/-! ### The handlers of the routes -/

namespace DatabasePart

/-- Whether the method leaves the design documents of the database alone: it neither drops the
database nor writes or removes a design document. -/
def KeepsDesigns : DatabasePart → Method → Prop
  | whole, .delete => False
  | designDocument _, .put => False
  | designDocument _, .delete => False
  | designDocument _, .copy => False
  | _, _ => True

variable {raw : String} {part : DatabasePart} {method : Method} {handler : Handler}

open Handler in
lemma makes_handler?_of_keepsDesigns (h : part.handler? raw method = some handler)
    (hkeeps : part.KeepsDesigns method) : handler.Makes Change.KeepsDesigns := by
  unfold DatabasePart.handler? at h
  split at h
  all_goals first | obtain rfl := Option.some.inj h | exact absurd h nofun
  -- The handlers that write, then those that read; what is left over leaves nothing alone.
  any_goals with_reducible first
    | exact makes_createDatabase _
    | exact makes_postDocument _
    | exact makes_putDocument _ _
    | exact makes_deleteDocument _ _
    | exact makes_bulkDocs _
    | exact makes_putLocal _ _
    | exact makes_deleteLocal _ _
    | exact makes_copyLocal _ _
    | exact makes_createIndex _
    | exact makes_deleteIndex _ _ _ _
    | exact makes_putSecurity _
  any_goals with_reducible first
    | exact makes_showDatabase _
    | exact makes_getDocument _ _
    | exact makes_bulkGet _
    | exact makes_purge _
    | exact makes_missingRevisions _
    | exact makes_getLocal _ _
    | exact makes_getDesign _ _
    | exact makes_queryView _ _ _
    | exact makes_showDesign _ _
    | exact makes_list _ _
    | exact makes_listKeys _ _
    | exact makes_find _
    | exact makes_listIndexes _
    | exact makes_showSecurity _
    | exact makes_forDatabase (by decide)
    | exact makes_forDatabaseAnd (by decide)
    | exact makes_unavailableAt _
  all_goals exact hkeeps.elim

open Handler in
/-- The handler of a part of a database makes one change at most. -/
lemma makes_handler? (h : part.handler? raw method = some handler) :
    handler.Makes Change.OfRequest := by
  by_cases hkeeps : part.KeepsDesigns method
  · exact (makes_handler?_of_keepsDesigns h hkeeps).mono Change.KeepsDesigns.ofRequest
  · unfold KeepsDesigns at hkeeps
    split at hkeeps
    · obtain rfl := Option.some.inj h
      exact makes_dropDatabase raw
    · obtain rfl := Option.some.inj h
      exact makes_putDesign raw _
    · obtain rfl := Option.some.inj h
      exact makes_deleteDesign raw _
    · obtain rfl := Option.some.inj h
      exact makes_copyDesign raw _
    · exact absurd trivial hkeeps

end DatabasePart

/-- Of the handlers that concern no single database, those of the session apart, none makes a
change. -/
lemma Endpoint.makes_handler? {endpoint : Endpoint} {method : Method} {handler : Handler}
    (h : endpoint.handler? method = some handler) (hsession : endpoint ≠ .session)
    {allowed : Change → Prop} : handler.Makes allowed := by
  unfold Endpoint.handler? showing at h
  split at h
  all_goals first | obtain rfl := Option.some.inj h | exact absurd h nofun
  any_goals with_reducible exact Handler.makes_fixed (by decide)
  · exact Handler.makes_reading fun _ _ => Answer.not_isDenial_json (by decide) _
  · exact absurd rfl hsession
  · exact absurd rfl hsession
  · exact absurd rfl hsession
  · exact Handler.makes_reading fun _ _ => Answer.not_isDenial_json (by decide) _
  · exact Handler.makes_databaseReports
  · exact Handler.makes_uuids
  · exact Handler.makes_reshardJob _

end Server

end DocumentDb
