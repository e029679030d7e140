import DocumentDb.Proofs.Database.Creation
import DocumentDb.Proofs.Server.Handlers
import DocumentDb.Proofs.Server.Reachable

/-!
# Error answers and what they leave behind

A request that is answered with an error has written nothing, with one exception. The handlers that
write let the database decide: an operation that fails leaves the database as it was, and one that
succeeds is acknowledged. Only a document that is posted to a database is written before its
answer is known to exist, as the answer names the location of the document in a header field. A
database name or an id with a control character makes a location that cannot be sent; the document
is then stored, and the answer is an error.
-/

namespace DocumentDb.Server

/-! ### Handlers that write nothing with an error -/

namespace Answer

/-- Whether an answer reports an error to the client. -/
def IsError (answer : Answer) : Prop := 400 ≤ answer.response.status

lemma not_isError_json {status : Nat} (h : status < 400) (value : Json) :
    ¬ IsError (.ok (.json status value)) := Nat.not_le.mpr h

end Answer

namespace Handler

/-- A handler that looks at the databases only. -/
def ReadOnly (handler : Handler) : Prop :=
  ∀ context i, (handler context i).2.databases = i.databases

/-- A handler that leaves the databases as they are where its answer is an error. -/
def Atomic (handler : Handler) : Prop :=
  ∀ context i, (handler context i).1.IsError → (handler context i).2.databases = i.databases

lemma ReadOnly.atomic {handler : Handler} (h : handler.ReadOnly) : handler.Atomic :=
  fun context i _ => h context i

lemma readOnly_fixed (response : Response) : ReadOnly (fixed response) := fun _ _ => rfl

lemma readOnly_reading (answer : Context → Instance → Answer) : ReadOnly (reading answer) :=
  fun _ _ => rfl

section

variable {α : Type} {take : Request → Except Failure α} {next : α → Handler}

lemma readOnly_taking (h : ∀ taken, ReadOnly (next taken)) : ReadOnly (taking take next) := by
  intro context i
  unfold taking
  split
  · rfl
  · exact h _ context i

lemma atomic_taking (h : ∀ taken, Atomic (next taken)) : Atomic (taking take next) := by
  intro context i herror
  unfold taking at herror ⊢
  split
  · rfl
  · rename_i taken htaken
    rw [htaken] at herror
    exact h taken context i herror

end

lemma atomic_changingDatabase {name : String} {act : Context → Database → Answer × Database}
    (h : ∀ context db, (act context db).1.IsError → (act context db).2 = db) :
    Atomic (changingDatabase name act) := by
  intro context i herror
  unfold changingDatabase at herror ⊢
  split
  · rfl
  · rename_i db hdb
    rw [hdb] at herror
    simp only [h context db herror]
    rw [setDatabase_self hdb]

/-- An operation that fails without a change is answered without one. -/
lemma answered_unchanged {α : Type} {respond : α → Response} {outcome : Outcome α} {db : Database}
    (hrespond : ∀ value, ¬ Answer.IsError (.ok (respond value)))
    (hfails : ∀ {error}, outcome.1 = .error error → outcome.2 = db)
    (herror : (answered respond outcome).1.IsError) : (answered respond outcome).2 = db := by
  obtain ⟨answer, after⟩ := outcome
  cases answer with
  | error error => exact hfails rfl
  | ok value => exact absurd herror (hrespond value)

/-! ### The handlers that write -/

lemma atomic_createDatabase (raw : String) : Atomic (createDatabase raw) := by
  refine atomic_taking fun name context i => ?_
  unfold Instance.createDatabase
  by_cases hexists : i.databases.contains name = true
  · simp only [hexists, if_true, implies_true]
  · simp only [hexists, if_false, Bool.false_eq_true]
    exact fun herror => absurd herror (Answer.not_isError_json (by decide) _)

lemma atomic_dropDatabase (raw : String) : Atomic (dropDatabase raw) := by
  refine atomic_taking fun name context i => ?_
  unfold Instance.deleteDatabase
  by_cases hexists : i.databases.contains name = true
  · simp only [hexists, if_true]
    exact fun herror => absurd herror (Answer.not_isError_json (by decide) _)
  · simp only [hexists, if_false, Bool.false_eq_true, implies_true]

lemma atomic_putDocument (raw rawId : String) : Atomic (putDocument raw rawId) := by
  refine atomic_taking fun (name, id, body) => atomic_changingDatabase fun context db => ?_
  exact answered_unchanged (fun document => Answer.not_isError_json (by decide) _)
    (Database.Performed.of_createDocument db body (some id) context.stamp).unchanged

lemma atomic_deleteDocument (raw rawId : String) : Atomic (deleteDocument raw rawId) := by
  refine atomic_taking fun (name, id) => atomic_changingDatabase fun context db => ?_
  exact answered_unchanged (fun document => Answer.not_isError_json (by decide) _)
    (Database.Performed.of_deleteDocument db id context.stamp).unchanged

lemma atomic_bulkDocs (raw : String) : Atomic (bulkDocs raw) := by
  refine atomic_taking fun (name, bodies) => atomic_changingDatabase fun context db => ?_
  exact answered_unchanged (fun documents => Answer.not_isError_json (by decide) _)
    (Database.Performed.of_addDocuments db bodies context.stamps).unchanged

lemma atomic_putLocal (raw rawId : String) : Atomic (putLocal raw rawId) := by
  refine atomic_taking fun (name, id, body) => atomic_changingDatabase fun context db => ?_
  exact answered_unchanged (fun document => Answer.not_isError_json (by decide) _)
    (Database.Performed.of_putLocal db id body context.stamp).unchanged

lemma atomic_deleteLocal (raw rawId : String) : Atomic (deleteLocal raw rawId) := by
  refine atomic_taking fun (name, id) => atomic_changingDatabase fun _ db => ?_
  exact answered_unchanged (fun document => Answer.not_isError_json (by decide) _)
    (Database.Performed.of_deleteLocal db id).unchanged

lemma atomic_copyLocal (raw rawId : String) : Atomic (copyLocal raw rawId) := by
  refine atomic_taking fun (name, id, copy) => atomic_changingDatabase fun context db => ?_
  cases hsource : db.local? id with
  | none => exact fun _ => rfl
  | some document =>
    by_cases htaken : (db.local? copy).isSome = true
    · simp only [htaken, if_true, implies_true]
    · simp only [htaken, if_false, Bool.false_eq_true]
      exact answered_unchanged (fun document => Answer.not_isError_json (by decide) _)
        (Database.Performed.of_putLocal db copy (.object document.body) context.stamp).unchanged

lemma atomic_putDesign (raw rawId : String) : Atomic (putDesign raw rawId) := by
  refine atomic_taking fun (name, id, body) => atomic_changingDatabase fun context db => ?_
  exact answered_unchanged (fun document => Answer.not_isError_json (by decide) _)
    (Database.Performed.of_createDesign db body (some id) context.stamp).unchanged

lemma atomic_deleteDesign (raw rawId : String) : Atomic (deleteDesign raw rawId) := by
  refine atomic_taking fun (name, id) => atomic_changingDatabase fun _ db => ?_
  have hfails := @(Database.Performed.of_deleteDesign db id).unchanged
  rcases hdelete : db.deleteDesign id with ⟨error | document, after⟩
  · rw [hdelete] at hfails
    exact fun _ => hfails rfl
  · exact fun herror => absurd herror (Answer.not_isError_json (by decide) _)

lemma atomic_copyDesign (raw rawId : String) : Atomic (copyDesign raw rawId) := by
  refine atomic_taking fun (name, id, copy) => atomic_changingDatabase fun context db => ?_
  cases hsource : db.design? id with
  | none => exact fun _ => rfl
  | some document =>
    exact answered_unchanged (fun document => Answer.not_isError_json (by decide) _)
      (Database.Performed.of_createDesign db (.object document.body) (some copy)
        context.stamp).unchanged

lemma atomic_createIndex (raw : String) : Atomic (createIndex raw) := by
  refine atomic_taking fun (name, body) => atomic_changingDatabase fun context db => ?_
  cases hrequest : requestWith "index" IndexRequest.decode body with
  | error failure => exact fun _ => rfl
  | ok request => exact fun herror => absurd herror (Answer.not_isError_json (by decide) _)

/-- An index that is not found leaves the others as they are. -/
lemma deleteIndex_of_not_found {db : Database} {design name : String}
    (h : (db.deleteIndex design name).1 = false) : (db.deleteIndex design name).2 = db := by
  unfold Database.deleteIndex at h ⊢
  obtain ⟨_, _, _, indexes, _⟩ := db
  simp only [Database.mk.injEq, true_and, and_true, List.filter_eq_self] at h ⊢
  intro index hindex
  simpa [imp_iff_not_or] using List.any_eq_false.mp h index hindex

lemma atomic_deleteIndex (raw rawDesign rawKind rawName : String) :
    Atomic (deleteIndex raw rawDesign rawKind rawName) := by
  refine atomic_taking fun (name, design, index) => atomic_changingDatabase fun _ db => ?_
  cases hfound : (db.deleteIndex design index).1 with
  | true =>
    simp only [hfound, if_true]
    exact fun herror => absurd herror (Answer.not_isError_json (by decide) _)
  | false => exact fun _ => deleteIndex_of_not_found hfound

lemma atomic_putSecurity (raw : String) : Atomic (putSecurity raw) := by
  refine atomic_taking fun (name, body) => atomic_changingDatabase fun _ db => ?_
  exact answered_unchanged (fun _ => Answer.not_isError_json (by decide) _)
    (Database.Performed.of_setSecurity db body).unchanged

/-- To sign in changes no database. -/
lemma readOnly_openSession : ReadOnly openSession := by
  intro context i
  unfold openSession
  split <;> rfl

end Handler

/-! ### Every handler but one -/

/-- What the server itself answers changes no database. -/
lemma Endpoint.readOnly_handler? {endpoint : Endpoint} {method : Method} {handler : Handler}
    (h : endpoint.handler? method = some handler) : handler.ReadOnly := by
  unfold Endpoint.handler? showing at h
  split at h
  all_goals first | obtain rfl := Option.some.inj h | exact absurd h nofun
  any_goals with_reducible exact Handler.readOnly_fixed _
  · exact Handler.readOnly_reading _
  · exact Handler.readOnly_reading _
  · exact Handler.readOnly_openSession
  · exact fun _ _ => rfl
  · exact Handler.readOnly_reading _
  · exact Handler.readOnly_taking fun _ => Handler.readOnly_reading _
  · exact Handler.readOnly_taking fun _ => Handler.readOnly_reading _
  · exact Handler.readOnly_taking fun _ => Handler.readOnly_fixed _

/-- Of the handlers for a database and what is in it, the one that posts documents may write and
answer with an error. -/
lemma DatabasePart.atomic_handler? {raw : String} {part : DatabasePart} {method : Method}
    {handler : Handler} (h : part.handler? raw method = some handler)
    (hpost : ¬ (part = .whole ∧ method = .post)) : handler.Atomic := by
  unfold DatabasePart.handler? at h
  split at h
  all_goals first | obtain rfl := Option.some.inj h | exact absurd h nofun
  -- The handlers that write; what is left over are those that only look.
  any_goals with_reducible first
    | exact Handler.atomic_createDatabase _
    | exact Handler.atomic_dropDatabase _
    | exact Handler.atomic_bulkDocs _
    | exact Handler.atomic_createIndex _
    | exact Handler.atomic_deleteIndex _ _ _ _
    | exact Handler.atomic_putSecurity _
    | exact Handler.atomic_putLocal _ _
    | exact Handler.atomic_deleteLocal _ _
    | exact Handler.atomic_copyLocal _ _
    | exact Handler.atomic_putDesign _ _
    | exact Handler.atomic_deleteDesign _ _
    | exact Handler.atomic_copyDesign _ _
    | exact Handler.atomic_putDocument _ _
    | exact Handler.atomic_deleteDocument _ _
    | exact absurd ⟨rfl, rfl⟩ hpost
  all_goals exact (Handler.readOnly_taking fun _ => Handler.readOnly_reading _).atomic

/-! ### Posted documents -/

/-- A request that posts a document which the database stores, but whose location cannot be sent. -/
structure Unannounced (context : Context) (i : Instance) (name : String) (db after : Database)
    (document : Document) : Prop where
  admitted : context.request.isAdmitted i = true
  posted : context.request.method = .post
  named : ∃ raw, Resource.ofRequest? context.request = some (.database raw .whole) ∧
    Handler.segment raw = .ok name
  found : i.database? name = some db
  created : ∃ body, Handler.jsonBody context.request = .ok body ∧
    db.createDocument body none context.stamp = (.ok document, after)
  unsendable : isSendable (Handler.locationOf context.config name document.id) = false

/-- Putting a changed database in the place of the one that was found is a change. -/
lemma databases_setDatabase_ne_iff {i : Instance} {name : String} {db after : Database}
    (h : i.database? name = some db) :
    (i.setDatabase name after).databases ≠ i.databases ↔ after ≠ db := by
  refine not_congr ⟨?same, ?back⟩
  case same =>
    intro hsame
    have hafter : (i.databases.insert name after).get? name = some after := by
      rw [Table.get?_insert, if_pos rfl]
    have hdb : i.databases.get? name = some db := h
    rw [show i.databases.insert name after = i.databases from hsame, hdb] at hafter
    exact (Option.some.inj hafter).symm
  case back =>
    rintro rfl
    rw [setDatabase_self h]

/-- To store a document is a change, unless it is a local one that is there already. -/
lemma keep_ne_self_iff {db : Database} {document : Document} :
    db.keep document ≠ db ↔
      document.isLocal = false ∨ db.store.locals.get? document.id ≠ some document := by
  cases hlocal : document.isLocal with
  | false =>
    simp only [true_or, iff_true]
    intro hsame
    -- A write of a regular document is counted.
    have hcount : (db.keep document).store.liveWrites + (db.keep document).store.deletedWrites =
        db.store.liveWrites + db.store.deletedWrites + 1 := by
      rw [Database.store_keep]
      cases hdeleted : document.deleted <;>
        simp only [Store.keep, hlocal, hdeleted, Bool.false_eq_true, if_true, if_false] <;> omega
    rw [hsame] at hcount
    omega
  | true =>
    simp only [Bool.true_eq_false, false_or]
    refine not_congr ⟨?same, ?back⟩
    case same =>
      intro hsame
      have hlocals : (db.keep document).store.locals.get? document.id = some document := by
        simp only [Database.store_keep, Store.keep, hlocal, if_true, Table.get?_insert]
      rwa [hsame] at hlocals
    case back =>
      intro hstored
      simp only [Database.keep, Store.keep, hlocal, if_true, Table.insert_eq_self hstored]

/-- What posting a document does once the request is taken apart and the database is found. -/
lemma postDocument_eq {raw name : String} {context : Context} {i : Instance} {body : Json}
    {db : Database} (hname : Handler.segment raw = .ok name)
    (hbody : Handler.jsonBody context.request = .ok body) (hdb : i.database? name = some db) :
    Handler.postDocument raw context i =
      match db.createDocument body none context.stamp with
      | (.ok document, after) =>
        (Handler.created context.config name document, i.setDatabase name after)
      | (.error cause, after) => (.error (.operation cause), i.setDatabase name after) := by
  simp only [Handler.postDocument, Handler.taking, hname, hbody, bind, Except.bind, pure,
    Except.pure, Handler.changingDatabase, hdb]
  cases hcreate : db.createDocument body none context.stamp with
  | mk answer after => cases answer <;> simp only

/-- A request to post a document that is changed by it was taken apart, and its database found. -/
lemma of_postDocument_changes {raw : String} {context : Context} {i : Instance}
    (h : (Handler.postDocument raw context i).2.databases ≠ i.databases) :
    ∃ name body db, Handler.segment raw = .ok name ∧
      Handler.jsonBody context.request = .ok body ∧ i.database? name = some db := by
  cases hname : Handler.segment raw with
  | error failure =>
    simp only [Handler.postDocument, Handler.taking, hname, bind, Except.bind, ne_eq,
      not_true_eq_false] at h
  | ok name =>
    cases hbody : Handler.jsonBody context.request with
    | error failure =>
      simp only [Handler.postDocument, Handler.taking, hname, hbody, bind, Except.bind, ne_eq,
        not_true_eq_false] at h
    | ok body =>
      cases hdb : i.database? name with
      | none =>
        simp only [Handler.postDocument, Handler.taking, hname, hbody, bind, Except.bind, pure,
          Except.pure, Handler.changingDatabase, hdb, ne_eq, not_true_eq_false] at h
      | some db => exact ⟨name, body, db, rfl, rfl, hdb⟩

/-- The answer to a new document is an error where its location cannot be sent. -/
lemma isError_created_iff {config : Config} {name : String} {document : Document} :
    (Handler.created config name document).IsError ↔
      isSendable (Handler.locationOf config name document.id) = false := by
  cases hsendable : isSendable (Handler.locationOf config name document.id) with
  | true =>
    simp only [Handler.created, hsendable, if_true, Bool.true_eq_false, iff_false,
      Answer.IsError, Answer.response, Response.withHeader, Handler.receipt, Response.json]
    decide
  | false =>
    simp only [Handler.created, hsendable, Bool.false_eq_true, if_false, iff_true,
      Answer.IsError, Answer.response, Failure.response, Response.text]
    decide

/-- Posting a document changes the databases and is answered with an error exactly where the
document is stored and its location cannot be sent. -/
lemma postDocument_error_changes_iff {raw : String} {context : Context} {i : Instance} :
    (Handler.postDocument raw context i).1.IsError ∧
        (Handler.postDocument raw context i).2.databases ≠ i.databases ↔
      ∃ name body db document after, Handler.segment raw = .ok name ∧
        Handler.jsonBody context.request = .ok body ∧ i.database? name = some db ∧
        db.createDocument body none context.stamp = (.ok document, after) ∧
        isSendable (Handler.locationOf context.config name document.id) = false ∧ after ≠ db := by
  constructor
  · rintro ⟨herror, hchanges⟩
    obtain ⟨name, body, db, hname, hbody, hdb⟩ := of_postDocument_changes hchanges
    have hfails := @(Database.Performed.of_createDocument db body none context.stamp).unchanged
    rw [postDocument_eq hname hbody hdb] at herror hchanges
    rcases hcreate : db.createDocument body none context.stamp with ⟨error | document, after⟩
    · rw [hcreate] at hfails
      simp only [hcreate] at hchanges
      exact absurd (hfails rfl) ((databases_setDatabase_ne_iff hdb).mp hchanges)
    · simp only [hcreate] at herror hchanges
      exact ⟨name, body, db, document, after, hname, hbody, hdb, hcreate,
        isError_created_iff.mp herror, (databases_setDatabase_ne_iff hdb).mp hchanges⟩
  · rintro ⟨name, body, db, document, after, hname, hbody, hdb, hcreate, hsend, hafter⟩
    simp only [postDocument_eq hname hbody hdb, hcreate]
    exact ⟨isError_created_iff.mpr hsend, (databases_setDatabase_ne_iff hdb).mpr hafter⟩

/-! ### Requests -/

/-- A request that changes the databases and is answered with an error has passed the gate and
reached a handler. -/
lemma serve_error_changes_iff_handler {context : Context} {i : Instance} :
    400 ≤ (context.serve i).1.status ∧ (context.serve i).2.databases ≠ i.databases ↔
      context.request.method ≠ .options ∧ context.request.isAdmitted i = true ∧
        ∃ handler, context.request.handler? = some handler ∧ (handler context i).1.IsError ∧
          (handler context i).2.databases ≠ i.databases := by
  by_cases hoptions : context.request.method = .options
  · simp only [Context.serve, hoptions, if_true, ne_eq, not_true_eq_false, and_false, false_and]
  · rw [status_serve i hoptions]
    simp only [Context.serve, hoptions, if_false, ne_eq, not_false_eq_true, true_and]
    unfold Context.handle
    cases hhandler : context.request.handler? with
    | none => simp
    | some handler =>
      cases hadmitted : context.request.isAdmitted i with
      | true => simp [Answer.IsError]
      | false => simp

/-- The handler of a request that changes the databases and is answered with an error posts a
document. -/
lemma method_eq_post_of_error_changes {context : Context} {i : Instance} {handler : Handler}
    (hhandler : context.request.handler? = some handler) (herror : (handler context i).1.IsError)
    (hchanges : (handler context i).2.databases ≠ i.databases) :
    ∃ raw, Resource.ofRequest? context.request = some (.database raw .whole) ∧
      context.request.method = .post ∧ handler = Handler.postDocument raw := by
  obtain ⟨resource, hresource, hhandler⟩ := Option.bind_eq_some_iff.mp hhandler
  cases resource with
  | server endpoint => exact absurd (Endpoint.readOnly_handler? hhandler context i) hchanges
  | database raw part =>
    by_cases hpost : part = .whole ∧ context.request.method.answeredAs = .post
    · obtain ⟨rfl, hmethod⟩ := hpost
      have hposted : context.request.method = .post := by
        revert hmethod
        cases context.request.method <;> simp [Method.answeredAs]
      rw [hmethod] at hhandler
      exact ⟨raw, hresource, hposted, (Option.some.inj hhandler).symm⟩
    · exact absurd (DatabasePart.atomic_handler? hhandler hpost context i herror) hchanges

/-- A request is answered with an error and yet changes a database in one case only: it posts a
document that the database stores, and the location of the document cannot be sent. That is a change
unless the document is a local one that is there already. -/
theorem serve_error_changes_iff (context : Context) (i : Instance) :
    (400 ≤ (context.serve i).1.status ∧ (context.serve i).2.databases ≠ i.databases) ↔
      ∃ name db after document, Unannounced context i name db after document ∧
        (document.isLocal = false ∨ db.store.locals.get? document.id ≠ some document) := by
  rw [serve_error_changes_iff_handler]
  constructor
  · rintro ⟨-, hadmitted, handler, hhandler, herror, hchanges⟩
    obtain ⟨raw, hresource, hposted, rfl⟩ :=
      method_eq_post_of_error_changes hhandler herror hchanges
    obtain ⟨name, body, db, document, after, hname, hbody, hdb, hcreate, hsend, hafter⟩ :=
      postDocument_error_changes_iff.mp ⟨herror, hchanges⟩
    refine ⟨name, db, after, document,
      ⟨hadmitted, hposted, ⟨raw, hresource, hname⟩, hdb, ⟨body, hbody, hcreate⟩, hsend⟩, ?_⟩
    obtain ⟨fields, -, -, rfl, rfl⟩ := Database.createDocument_eq_ok_iff.mp hcreate
    exact keep_ne_self_iff.mp hafter
  · rintro ⟨name, db, after, document,
      ⟨hadmitted, hposted, ⟨raw, hresource, hname⟩, hdb, ⟨body, hbody, hcreate⟩, hsend⟩, hnew⟩
    have hhandler : context.request.handler? = some (Handler.postDocument raw) := by
      simp only [Request.handler?, hresource, hposted, Option.bind_some, Resource.handler?,
        Method.answeredAs, DatabasePart.handler?]
    have hafter : after ≠ db := by
      obtain ⟨fields, -, -, rfl, rfl⟩ := Database.createDocument_eq_ok_iff.mp hcreate
      exact keep_ne_self_iff.mpr hnew
    refine ⟨by rw [hposted]; decide, hadmitted, _, hhandler, ?_⟩
    exact postDocument_error_changes_iff.mpr
      ⟨name, body, db, document, after, hname, hbody, hdb, hcreate, hsend, hafter⟩

/-- With a control character in its id, a document that is posted is stored, and the answer is an
error. -/
theorem not_serve_error_unchanged :
    ¬ ∀ (config : Config) (i : Instance) (request : Request) (stamps : Nat → Stamp),
      Reachable config i → 400 ≤ (Context.serve ⟨config, request, stamps⟩ i).1.status →
      (Context.serve ⟨config, request, stamps⟩ i).2.databases = i.databases := by
  intro hunchanged
  let config : Config := ⟨5984, []⟩
  let stamps : Nat → Stamp := fun _ => ⟨⟨0⟩, ⟨1⟩⟩
  let i := served config Instance.empty.authenticate [(⟨.put, "/db", [], ""⟩, stamps)]
  let request : Request := ⟨.post, "/db", [⟨"content-type", "application/json"⟩],
    "\x7b\"_id\": \"a\\u0001\"\x7d"⟩
  have hsame := hunchanged config i request stamps ⟨_, .inr rfl⟩ (by decide +kernel)
  have hwrites : ((Context.serve ⟨config, request, stamps⟩ i).2.databases.get? "db").map
      (·.store.liveWrites) = some 1 := by
    decide +kernel
  rw [hsame] at hwrites
  exact absurd hwrites (by decide +kernel)

end DocumentDb.Server
