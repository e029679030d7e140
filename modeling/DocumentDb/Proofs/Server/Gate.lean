import DocumentDb.Proofs.Server.Runs

/-!
# The gate

Clients that are not signed in reach the session, the welcome and the state of the server, and
nothing else: every other request that has a handler is denied, unless it has credentials or a
session is open. Whether one is open can be told from the requests so far and their responses: the
last request that signs in successfully has not been followed by one that signs out.

A request without credentials learns nothing of the databases and changes none. Its response depends
on the request and on who is signed in only, except for the random digits of the welcome.
-/

namespace DocumentDb

/-! ### Paths -/

namespace Text

/-- The parts of a text with the separator between them are the text. -/
lemma intercalate_splitChars (separator : Char) (cs : List Char) :
    [separator].intercalate (splitChars separator cs) = cs := by
  induction cs with
  | nil => rfl
  | cons c cs ih =>
    rw [splitChars]
    cases hparts : splitChars separator cs with
    | nil => exact absurd hparts (splitChars_ne_nil separator cs)
    | cons part parts =>
      rw [hparts] at ih
      split
      · rename_i hc
        rw [List.intercalate_cons_cons, ih, hc]
        simp
      · cases parts <;> simp_all

end Text

namespace Server

/-- The path of a request is a slash and its segments with slashes between them. -/
lemma Request.toList_path {request : Request} {segments : List String}
    (h : request.segments? = some segments) :
    request.path.toList = ['/'].intercalate ([] :: segments.map String.toList) := by
  unfold segments? at h
  split at h
  · rename_i hsplit
    cases h
    have hparts : Text.splitChars '/' request.path.toList = [] :: segments.map String.toList := by
      simpa [Text.split, Function.comp_def] using congrArg (List.map String.toList) hsplit
    rw [← hparts, Text.intercalate_splitChars]
  · cases h

lemma Endpoint.eq_of_ofSegments?_eq_session {segments : List String}
    (h : ofSegments? segments = some .session) : segments = ["_session"] := by
  unfold ofSegments? at h
  split at h <;> cases h
  rfl

/-- The segments of a resource of the server are those of its endpoint. -/
lemma Resource.ofSegments?_of_server {segments : List String} {endpoint : Endpoint}
    (h : ofSegments? segments = some (.server endpoint)) :
    Endpoint.ofSegments? segments = some endpoint := by
  unfold ofSegments? at h
  split at h
  · cases h
  · split at h
    · rename_i hendpoint
      cases h
      exact hendpoint
    · split at h
      · cases h
      · simp at h

/-- The path of the session is no other. -/
lemma ofRequest?_eq_session_iff {request : Request} :
    Resource.ofRequest? request = some (.server .session) ↔ request.path = "/_session" := by
  constructor
  · intro h
    obtain ⟨segments, hsegments, hresource⟩ := Option.bind_eq_some_iff.mp h
    obtain rfl := Endpoint.eq_of_ofSegments?_eq_session (Resource.ofSegments?_of_server hresource)
    exact String.toList_injective (Request.toList_path hsegments)
  · intro h
    simp only [Resource.ofRequest?, Request.segments?, h]
    rfl

/-! ### Who is signed in -/

/-- A request and the response to it. -/
structure Exchange where
  request : Request
  response : Response

/-- What is asked and answered while requests are served, one after the other. -/
def exchanges (config : Config) (i : Instance) : List Call → List Exchange
  | [] => []
  | (request, stamps) :: calls =>
    let (response, after) := Context.serve ⟨config, request, stamps⟩ i
    ⟨request, response⟩ :: exchanges config after calls

namespace Exchange

/-- A request that signs in, and succeeds with it. -/
def SignsIn (exchange : Exchange) : Prop :=
  exchange.request.method = .post ∧ exchange.request.path = "/_session" ∧
    exchange.response.status = 200

/-- A request that signs out. -/
def SignsOut (exchange : Exchange) : Prop :=
  exchange.request.method = .delete ∧ exchange.request.path = "/_session"

end Exchange

/-- Whether a session is open: somebody was signed in from the start or has signed in, and nobody
has signed out since. -/
def SessionOpen (signedIn : Prop) (log : List Exchange) : Prop :=
  (signedIn ∧ ∀ exchange ∈ log, ¬ exchange.SignsOut) ∨
    ∃ before exchange after, log = before ++ exchange :: after ∧ exchange.SignsIn ∧
      ∀ later ∈ after, ¬ later.SignsOut

lemma sessionOpen_nil {signedIn : Prop} : SessionOpen signedIn [] ↔ signedIn := by
  simp [SessionOpen]

/-- The first exchange decides who is signed in at the start of the others. -/
lemma sessionOpen_cons {signedIn : Prop} {first : Exchange} {log : List Exchange} :
    SessionOpen signedIn (first :: log) ↔
      SessionOpen (first.SignsIn ∨ signedIn ∧ ¬ first.SignsOut) log := by
  constructor
  · rintro (⟨hsigned, hnone⟩ | ⟨before, exchange, after, hlog, hin, hnone⟩)
    · rw [List.forall_mem_cons] at hnone
      exact .inl ⟨.inr ⟨hsigned, hnone.1⟩, hnone.2⟩
    · cases before with
      | nil =>
        obtain ⟨rfl, rfl⟩ := List.cons.inj hlog
        exact .inl ⟨.inl hin, hnone⟩
      | cons other before =>
        obtain ⟨rfl, rfl⟩ := List.cons.inj hlog
        exact .inr ⟨before, exchange, after, rfl, hin, hnone⟩
  · rintro (⟨hin | ⟨hsigned, hout⟩, hnone⟩ | ⟨before, exchange, after, rfl, hin, hnone⟩)
    · exact .inr ⟨[], first, log, rfl, hin, hnone⟩
    · exact .inl ⟨hsigned, List.forall_mem_cons.mpr ⟨hout, hnone⟩⟩
    · exact .inr ⟨first :: before, exchange, after, rfl, hin, hnone⟩

namespace Request

lemma handler?_of_session {request : Request} (h : request.path = "/_session") :
    request.handler? = Endpoint.session.handler? request.method.answeredAs := by
  rw [handler?, ofRequest?_eq_session_iff.mpr h]
  rfl

lemma isAdmitted_of_session {request : Request} (h : request.path = "/_session") (i : Instance) :
    request.isAdmitted i = true := by
  simp [isAdmitted, isPublic, h]

/-- No handler but those of the session denies anybody or changes who is signed in. -/
lemma makes_handler? {request : Request} {handler : Handler} (h : request.handler? = some handler)
    (hpath : request.path ≠ "/_session") : handler.Makes Change.OfRequest := by
  obtain ⟨resource, hresource, hhandler⟩ := Option.bind_eq_some_iff.mp h
  cases resource with
  | server endpoint =>
    refine Endpoint.makes_handler? hhandler ?_
    rintro rfl
    exact hpath (ofRequest?_eq_session_iff.mp hresource)
  | database raw part => exact DatabasePart.makes_handler? hhandler

end Request

lemma user_serve_of_not_session {context : Context} (i : Instance)
    (h : context.request.path ≠ "/_session") : (context.serve i).2.user = i.user := by
  rcases snd_serve context i with hsame | ⟨handler, hhandler, -, hafter⟩
  · rw [hsame]
  · rw [hafter]
    rcases (Request.makes_handler? hhandler h).change context i with hsame | ⟨change, -, hchange⟩
    · rw [hsame]
    · rw [hchange, Change.user_apply]

/-- One request tells who is signed in after it. -/
lemma isSome_user_serve_iff (context : Context) (i : Instance) :
    (context.serve i).2.user.isSome = true ↔
      (Exchange.mk context.request (context.serve i).1).SignsIn ∨
        i.user.isSome = true ∧ ¬ (Exchange.mk context.request (context.serve i).1).SignsOut := by
  by_cases hpath : context.request.path = "/_session"
  · have hadmitted := Request.isAdmitted_of_session hpath i
    have hhandler := Request.handler?_of_session hpath
    simp only [Exchange.SignsIn, Exchange.SignsOut, hpath, Context.serve, Context.handle]
    cases hmethod : context.request.method with
    | post =>
      simp only [hhandler, hmethod, Method.answeredAs, Endpoint.handler?, hadmitted, if_true,
        Handler.openSession]
      cases (Credentials.ofRequest context.request).user? with
      | none =>
        simp [Answer.response, Failure.response, Failure.ofError, Error.kind, Failure.report,
          Response.json]
      | some name => simp [Answer.response, Response.withHeader, Response.json, Instance.login]
    | _ =>
      simp [hhandler, hmethod, Method.answeredAs, Endpoint.handler?, hadmitted,
        Handler.showSession, Handler.reading, Handler.closeSession, Instance.logout]
  · simp [Exchange.SignsIn, Exchange.SignsOut, hpath, user_serve_of_not_session i hpath]

/-- The requests so far and their responses tell whether somebody is signed in. -/
lemma isSome_user_served_iff (config : Config) (i : Instance) (calls : List Call) :
    (served config i calls).user.isSome = true ↔
      SessionOpen (i.user.isSome = true) (exchanges config i calls) := by
  induction calls generalizing i with
  | nil => exact sessionOpen_nil.symm
  | cons call calls ih =>
    rw [served_cons, ih, exchanges, sessionOpen_cons, isSome_user_serve_iff]

/-! ### Requests behind the gate -/

/-- A request that has a handler, which is not for everyone: it is neither for the session nor looks
at the welcome or the state of the server. -/
structure Request.Gated (request : Request) : Prop where
  routed : request.handler?.isSome = true
  not_options : request.method ≠ .options
  not_session : request.path ≠ "/_session"
  not_status : request.path ∈ ["/", "/_up"] → request.method ≠ .get ∧ request.method ≠ .head

lemma Method.answeredAs_eq_get_iff {method : Method} :
    method.answeredAs = .get ↔ method = .get ∨ method = .head := by
  cases method <;> simp [answeredAs]

lemma Request.Gated.not_isPublic {request : Request} (h : request.Gated) :
    request.isPublic = false := by
  rw [isPublic, Bool.or_eq_false_iff, decide_eq_false_iff_not, Bool.and_eq_false_imp]
  refine ⟨h.not_session, fun hpath => ?_⟩
  have hmethod := h.not_status (of_decide_eq_true hpath)
  rw [decide_eq_false_iff_not, Method.answeredAs_eq_get_iff, not_or]
  exact hmethod

/-- A request behind the gate is denied where it has no credentials and nobody is signed in. -/
lemma status_serve_eq_iff {context : Context} (i : Instance) (h : context.request.Gated) :
    (context.serve i).1.status = 401 ↔
      context.request.header? "authorization" = none ∧ ¬ i.user.isSome = true := by
  obtain ⟨handler, hhandler⟩ := Option.isSome_iff_exists.mp h.routed
  have hanswers := (Request.makes_handler? hhandler h.not_session).not_denial context i
  have hadmitted : context.request.isAdmitted i = true ↔
      ¬ (context.request.header? "authorization" = none ∧ ¬ i.user.isSome = true) := by
    simp [Request.isAdmitted, h.not_isPublic, Option.isSome_iff_ne_none, or_iff_not_imp_left]
  rw [status_serve i h.not_options, Context.handle, hhandler]
  cases hpasses : context.request.isAdmitted i with
  | true => exact iff_of_false hanswers (hadmitted.mp hpasses)
  | false =>
    refine iff_of_true rfl (not_not.mp fun hopen => ?_)
    exact absurd (hadmitted.mpr hopen) (by simp [hpasses])

/-! ### What is open to everyone -/

/-- Two responses that are the same, up to the random digits of the welcome. -/
structure Response.Alike (response other : Response) : Prop where
  status : response.status = other.status
  headers : response.headers = other.headers
  body : response.body = other.body ∨ ∃ digits digits',
    response.body = .json (Fixed.welcome digits) ∧ other.body = .json (Fixed.welcome digits')

namespace Response.Alike

lemma refl (response : Response) : response.Alike response := ⟨rfl, rfl, .inl rfl⟩

variable {response other : Response}

lemma withoutBody (h : response.Alike other) : response.withoutBody.Alike other.withoutBody :=
  ⟨h.status, h.headers, .inl rfl⟩

lemma withHeaders (h : response.Alike other) (fields : List HeaderField) :
    (response.withHeaders fields).Alike (other.withHeaders fields) := by
  unfold Response.withHeaders
  induction fields generalizing response other with
  | nil => exact h
  | cons field fields ih =>
    have hheaders : (response.withHeader field.name field.value).headers =
        (other.withHeader field.name field.value).headers := by
      simp only [Response.withHeader, h.headers]
    exact ih ⟨h.status, hheaders, h.body⟩

end Response.Alike

/-- A handler that answers two requests alike that differ in the random bits at most, even at two
instances, as long as the same client is signed in. -/
def Handler.Blind (handler : Handler) : Prop :=
  ∀ (config : Config) (request : Request) (stamps stamps' : Nat → Stamp) (i j : Instance),
    i.user = j.user → (handler ⟨config, request, stamps⟩ i).1.response.Alike
      (handler ⟨config, request, stamps'⟩ j).1.response

namespace Handler

lemma blind_fixed (response : Response) : Blind (fixed response) :=
  fun _ _ _ _ _ _ _ => .refl response

lemma blind_welcome : Blind Handler.welcome := by
  have halike (digits digits' : String) :
      (Response.json 200 (Fixed.welcome digits)).Alike (.json 200 (Fixed.welcome digits')) :=
    ⟨rfl, rfl, .inr ⟨digits, digits', rfl, rfl⟩⟩
  exact fun _ _ stamps stamps' _ _ _ => halike (stamps 0).id.simple (stamps' 0).id.simple

lemma blind_showSession : Blind showSession := by
  intro config request stamps stamps' i j huser
  simp only [showSession, reading, huser]
  exact .refl _

lemma blind_openSession : Blind openSession := by
  intro config request stamps stamps' i j _
  simp only [openSession]
  cases (Credentials.ofRequest request).user? <;> exact .refl _

lemma blind_closeSession : Blind closeSession := fun _ _ _ _ _ _ _ => .refl _

end Handler

lemma Endpoint.blind_session {method : Method} {handler : Handler}
    (h : session.handler? method = some handler) : handler.Blind := by
  cases method with
  | get =>
    obtain rfl := Option.some.inj h
    exact Handler.blind_showSession
  | post =>
    obtain rfl := Option.some.inj h
    exact Handler.blind_openSession
  | delete =>
    obtain rfl := Option.some.inj h
    exact Handler.blind_closeSession
  | _ => exact absurd h nofun

/-- What is open to everyone belongs to no database, and shows none. -/
lemma Request.of_isPublic {request : Request} (h : request.isPublic = true) :
    ∃ endpoint, Resource.ofRequest? request = some (.server endpoint) ∧
      ∀ handler, request.handler? = some handler → handler.Blind := by
  rw [isPublic, Bool.or_eq_true, decide_eq_true_iff, Bool.and_eq_true, decide_eq_true_iff,
    decide_eq_true_iff] at h
  rcases h with hpath | ⟨hpath, hmethod⟩
  · refine ⟨.session, ofRequest?_eq_session_iff.mpr hpath, fun handler hhandler => ?_⟩
    rw [handler?_of_session hpath] at hhandler
    exact Endpoint.blind_session hhandler
  · simp only [List.mem_cons, List.not_mem_nil, or_false] at hpath
    rcases hpath with hpath | hpath
    · have hresource : Resource.ofRequest? request = some (.server .welcome) := by
        simp only [Resource.ofRequest?, segments?, hpath]
        rfl
      refine ⟨.welcome, hresource, fun handler hhandler => ?_⟩
      rw [handler?, hresource, hmethod] at hhandler
      obtain rfl := Option.some.inj hhandler
      exact Handler.blind_welcome
    · have hresource : Resource.ofRequest? request = some (.server .up) := by
        simp only [Resource.ofRequest?, segments?, hpath]
        rfl
      refine ⟨.up, hresource, fun handler hhandler => ?_⟩
      rw [handler?, hresource, hmethod] at hhandler
      obtain rfl := Option.some.inj hhandler
      exact Handler.blind_fixed _

section

variable {config : Config} {request : Request} {i j : Instance}

/-- Without credentials and without a session, only what is open to everyone is admitted. -/
lemma isAdmitted_eq_isPublic (hcredentials : request.header? "authorization" = none)
    (hi : i.user = none) : request.isAdmitted i = request.isPublic := by
  simp [Request.isAdmitted, hcredentials, hi]

lemma databases_serve_of_no_credentials (stamps : Nat → Stamp)
    (hcredentials : request.header? "authorization" = none) (hi : i.user = none) :
    (Context.serve ⟨config, request, stamps⟩ i).2.databases = i.databases := by
  rcases snd_serve ⟨config, request, stamps⟩ i with hsame | ⟨handler, hhandler, hadmitted, hafter⟩
  · rw [hsame]
  · rw [isAdmitted_eq_isPublic hcredentials hi] at hadmitted
    obtain ⟨endpoint, hresource, -⟩ := Request.of_isPublic hadmitted
    rw [Request.handler?, hresource] at hhandler
    rw [hafter]
    exact Endpoint.readOnly_handler? hhandler ⟨config, request, stamps⟩ i

lemma handle_alike (stamps stamps' : Nat → Stamp)
    (hcredentials : request.header? "authorization" = none) (hi : i.user = none)
    (hj : j.user = none) :
    (Context.handle ⟨config, request, stamps⟩ i).1.Alike
      (Context.handle ⟨config, request, stamps'⟩ j).1 := by
  simp only [Context.handle]
  cases hhandler : request.handler? with
  | none => exact .refl _
  | some handler =>
    simp only [isAdmitted_eq_isPublic hcredentials hi, isAdmitted_eq_isPublic hcredentials hj]
    cases hpublic : request.isPublic with
    | false => exact .refl _
    | true =>
      obtain ⟨endpoint, -, hblind⟩ := Request.of_isPublic hpublic
      exact hblind handler hhandler config request stamps stamps' i j (hi.trans hj.symm)

/-- Without credentials and without a session, the responses of two instances are alike. -/
lemma serve_alike (stamps stamps' : Nat → Stamp)
    (hcredentials : request.header? "authorization" = none) (hi : i.user = none)
    (hj : j.user = none) :
    (Context.serve ⟨config, request, stamps⟩ i).1.Alike
      (Context.serve ⟨config, request, stamps'⟩ j).1 := by
  have halike := @handle_alike config request i j stamps stamps' hcredentials hi hj
  simp only [Context.serve]
  split
  · exact .refl _
  · refine Response.Alike.withHeaders ?_ _
    split
    · exact halike.withoutBody
    · exact halike

end

/-- The gate is exact, and leaks nothing. Whatever was requested since the start, a request behind
the gate is denied exactly where it has no credentials and no session is open. And a request without
credentials is answered alike by any two instances in which nobody is signed in, and changes no
database of either. -/
theorem gate_exact_and_blind (config : Config) :
    (∀ (start : Instance) (calls : List Call) (request : Request) (stamps : Nat → Stamp),
      request.Gated →
      ((Context.serve ⟨config, request, stamps⟩ (served config start calls)).1.status = 401 ↔
        request.header? "authorization" = none ∧
          ¬ SessionOpen (start.user.isSome = true) (exchanges config start calls))) ∧
    ∀ (i j : Instance) (request : Request) (stamps stamps' : Nat → Stamp),
      i.user = none → j.user = none → request.header? "authorization" = none →
      (Context.serve ⟨config, request, stamps⟩ i).1.Alike
        (Context.serve ⟨config, request, stamps'⟩ j).1 ∧
      (Context.serve ⟨config, request, stamps⟩ i).2.databases = i.databases ∧
      (Context.serve ⟨config, request, stamps'⟩ j).2.databases = j.databases := by
  refine ⟨fun start calls request stamps hgated => ?exact, fun i j request stamps stamps' => ?blind⟩
  case exact =>
    rw [status_serve_eq_iff _ hgated, isSome_user_served_iff]
  case blind =>
    intro hi hj hcredentials
    exact ⟨serve_alike stamps stamps' hcredentials hi hj,
      databases_serve_of_no_credentials stamps hcredentials hi,
      databases_serve_of_no_credentials stamps' hcredentials hj⟩

/-- At the start the databases are not listed for a client without credentials, who cannot even tell
whether there is one; they are listed once somebody has signed in. -/
theorem gate_exact_and_blind_listing :
    let config : Config := ⟨5984, []⟩
    let stamps : Nat → Stamp := fun _ => ⟨⟨0⟩, ⟨1⟩⟩
    let signIn : Request := ⟨.post, "/_session",
      [⟨"content-type", "application/x-www-form-urlencoded"⟩], "name=a&password=b"⟩
    let list : Request := ⟨.get, "/_all_dbs", [], ""⟩
    let filled : Instance := Instance.empty.addDatabase "db"
    list.Gated ∧
      (Context.serve ⟨config, list, stamps⟩ (served config .empty [])).1.status = 401 ∧
      (Context.serve ⟨config, list, stamps⟩ (served config .empty [(signIn, stamps)])).1.status ≠
        401 ∧
      (Context.serve ⟨config, list, stamps⟩ .empty).1.Alike
        (Context.serve ⟨config, list, stamps⟩ filled).1 ∧
      (Context.serve ⟨config, list, stamps⟩ filled).2.databases = filled.databases := by
  intro config stamps signIn list filled
  have hgated : list.Gated := ⟨by decide +kernel, by decide, by decide +kernel, by decide +kernel⟩
  obtain ⟨hexact, hblind⟩ := gate_exact_and_blind config
  obtain ⟨halike, -, hunchanged⟩ :=
    hblind .empty filled list stamps stamps rfl (Change.user_apply .empty (.create "db")) rfl
  refine ⟨hgated, ?_, ?_, halike, hunchanged⟩
  · rw [hexact .empty [] list stamps hgated]
    exact ⟨by decide, by simp [exchanges, sessionOpen_nil, Instance.empty]⟩
  · rw [ne_eq, hexact .empty [(signIn, stamps)] list stamps hgated]
    have hopen : SessionOpen (Instance.empty.user.isSome = true)
        (exchanges config .empty [(signIn, stamps)]) :=
      .inr ⟨[], _, [], rfl, ⟨rfl, by decide +kernel, by decide +kernel⟩, by simp⟩
    exact fun hdenied => hdenied.2 hopen

end Server

end DocumentDb
