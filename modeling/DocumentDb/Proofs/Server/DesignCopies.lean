import DocumentDb.Proofs.Server.Runs

/-!
# Copies of design documents

A design document that is stored can always be copied to an id that is free: its body compiles
again, whatever it is. The copy is as good as the original from then on. As long as requests leave
the design documents alone, every write of documents rebuilds the views of both, so a query has the
same result on either.
-/

namespace DocumentDb.Server

/-- A request that may pass and asks to copy a stored design document to the id of another. -/
structure CopiesDesign (i : Instance) (request : Request) (name source target : String)
    (db : Database) (document : Document) : Prop where
  admitted : request.isAdmitted i = true
  method : request.method = .copy
  path : ∃ raw rawId,
    Resource.ofRequest? request = some (.database raw (.designDocument rawId)) ∧
      Names i raw rawId name source db
  stored : db.design? source = some document
  destination : (request.plainHeader? "destination").map Text.trimmed = some target
  isDesign : DocId.isDesign target = true

variable {config : Config} {i : Instance} {request : Request} {name source target : String}
  {db : Database} {document : Document}

namespace Handler

lemma destination_of_isDesign
    (h : (request.plainHeader? "destination").map Text.trimmed = some target)
    (htarget : DocId.isDesign target = true) : destination request = .ok target := by
  simp [destination, h, DocId.not_isEmpty_of_isDesign htarget]

lemma copyDesign_eq {raw rawId : String} {context : Context}
    (hnames : Names i raw rawId name source db) (hdocument : db.design? source = some document)
    (hdestination : destination context.request = .ok target)
    (htarget : DocId.isDesign target = true) :
    copyDesign raw rawId context i =
      (answering (receipt 201)
          (db.createDesign (.object document.body) (some target) context.stamp).1,
        i.setDatabase name
          (db.createDesign (.object document.body) (some target) context.stamp).2) := by
  have htake : (do
      let name ← segment raw
      let id ← segment rawId
      let copy ← destination context.request
      if DocId.isDesign copy then return (name, id, copy) else .error .destinationNotDesign) =
        Except.ok (name, source, target) := by
    rw [hnames.database, hnames.document, hdestination]
    simp [bind, Except.bind, htarget, pure, Except.pure]
  rw [copyDesign, taking_ok htake]
  simp only [changingDatabase_some hnames.found, hdocument]
  rfl

end Handler

/-- A request that copies a design document stores its body under the other id. -/
lemma CopiesDesign.serve_eq (h : CopiesDesign i request name source target db document)
    (stamps : Nat → Stamp) :
    Context.serve ⟨config, request, stamps⟩ i =
      ((Handler.answering (Handler.receipt 201)
          (db.createDesign (.object document.body) (some target) (stamps 0)).1).response.signed
          config,
        i.setDatabase name
          (db.createDesign (.object document.body) (some target) (stamps 0)).2) := by
  obtain ⟨raw, rawId, hresource, hnames⟩ := h.path
  have hhandler : request.handler? = some (Handler.copyDesign raw rawId) := by
    simp only [Request.handler?, hresource, h.method, Option.bind_some, Resource.handler?,
      Method.answeredAs, DatabasePart.handler?]
  have hdestination := Handler.destination_of_isDesign h.destination h.isDesign
  rw [@serve_of_handler ⟨config, request, stamps⟩ i _ hhandler h.admitted (by simp [h.method])
    (by simp [h.method]), Handler.copyDesign_eq hnames h.stored hdestination h.isDesign]
  rfl

/-- The databases of a reachable instance have design documents that compile again. -/
lemma Reachable.recompiles (h : Reachable config i) (hdb : i.database? name = some db) :
    db.Recompiles :=
  h.induct_databases Database.Recompiles.init
    (fun db operation hrequest hdb =>
      hdb.performed (Database.Performed.of_perform db operation) hrequest) hdb

/-- Operations that leave design documents alone keep them compiling to their views. -/
lemma recompiles_of_keepsDesigns {designs : Table Document} (db : Database) (operation : Operation)
    (hkeeps : operation.KeepsDesigns) (h : db.Recompiles ∧ db.store.designs = designs) :
    (db.perform operation).2.Recompiles ∧ (db.perform operation).2.store.designs = designs := by
  have hrule := Database.Performed.of_perform db operation
  exact ⟨h.1.performed hrule hkeeps.ofRequest, (hrule.designs_eq hkeeps).trans h.2⟩

/-- In a reachable instance, a request that copies a stored design document to a free id succeeds,
and changes nothing but the design document of that id. The two design documents are twins, and stay
so through any requests that leave design documents alone. -/
theorem copyDesign_twins (hi : Reachable config i)
    (hcopies : CopiesDesign i request name source target db document)
    (hfree : db.store.designs.get? target = none) (stamps : Nat → Stamp) :
    ∃ after, (Context.serve ⟨config, request, stamps⟩ i).1.status = 201 ∧
      (Context.serve ⟨config, request, stamps⟩ i).2 = i.setDatabase name after ∧
      db.CopiedDesign after document target ∧
      ∀ calls : List Call, (∀ call ∈ calls, call.1.KeepsDesigns) →
        ∃ later, (served config (i.setDatabase name after) calls).database? name = some later ∧
          later.Twins source target := by
  obtain ⟨raw, rawId, -, hnames⟩ := hcopies.path
  have hrecompiles := hi.recompiles hnames.found
  obtain ⟨copy, hcreated, hcopied⟩ :=
    hrecompiles.createDesign_body hcopies.stored hcopies.isDesign hfree (stamps 0)
  have hafter : (db.createDesign (.object document.body) (some target) (stamps 0)).2.Recompiles :=
    hrecompiles.performed (Database.Performed.of_createDesign db _ _ _) trivial
  rw [hcopies.serve_eq, hcreated]
  generalize (db.createDesign (.object document.body) (some target) (stamps 0)).2 = after
    at hcopied hafter ⊢
  refine ⟨after, ?status, rfl, hcopied, fun calls hcalls => ?twins⟩
  case status =>
    rw [status_signed]
    rfl
  case twins =>
    obtain ⟨stored, hstored, -, hbody⟩ := hcopied.copy
    have hsource : DocId.toDesign source ≠ target := by
      intro hsame
      have hdocument := hcopies.stored
      rw [Database.design?, hsame, hfree] at hdocument
      cases hdocument
    obtain ⟨later, hlater, hstill, hdesigns⟩ :=
      @database?_served_of_keepsDesigns _ recompiles_of_keepsDesigns config calls hcalls _ name
        after (database?_setDatabase i name after) ⟨hafter, rfl⟩
    refine ⟨later, hlater, hstill.twins ?_ ?_ hbody⟩
    · rw [Database.design?, hdesigns]
      exact (hcopied.designs _ hsource).1.trans hcopies.stored
    · rw [Database.design?, hdesigns, DocId.toDesign_of_isDesign hcopies.isDesign]
      exact hstored

/-- A design document is copied before there is any document; then a document and a local document
are written. -/
theorem copyDesign_twins_later :
    let config : Config := ⟨5984, []⟩
    let stamps : Nat → Stamp := fun _ => ⟨⟨0⟩, ⟨1⟩⟩
    let json : HeaderField := ⟨"content-type", "application/json"⟩
    let views := "\x7b\"n\": \x7b\"map\": \"doc => emit(doc.n, 1)\", \"reduce\": \"_sum\"\x7d\x7d"
    let i := served config Instance.empty.authenticate
      [(⟨.put, "/db", [], ""⟩, stamps),
       (⟨.put, "/db/_design/d", [json], "\x7b\"views\": " ++ views ++ "\x7d"⟩, stamps)]
    let request : Request := ⟨.copy, "/db/_design/d", [⟨"destination", " _design/e "⟩], ""⟩
    let calls : List Call :=
      [(⟨.put, "/db/a", [json], "\x7b\"n\": 1\x7d"⟩, stamps),
       (⟨.put, "/db/_local/b", [json], "\x7b\x7d"⟩, stamps)]
    Reachable config i ∧
      (∃ db document, CopiesDesign i request "db" "d" "_design/e" db document ∧
        db.store.designs.get? "_design/e" = none) ∧
      (∀ call ∈ calls, call.1.KeepsDesigns) ∧
      (Context.serve ⟨config, request, stamps⟩ i).1.status = 201 ∧
      ∃ later, (served config (Context.serve ⟨config, request, stamps⟩ i).2 calls).database? "db" =
        some later ∧ later.Twins "d" "_design/e" := by
  intro config stamps json views i request calls
  have hi : Reachable config i := ⟨_, .inr rfl⟩
  have hcalls : ∀ call ∈ calls, call.1.KeepsDesigns := by
    rw [List.forall_mem_cons, List.forall_mem_singleton]
    exact ⟨Request.keepsDesigns_of_resource "db" (.document "a") (by decide +kernel) trivial,
      Request.keepsDesigns_of_resource "db" (.localDocument "b") (by decide +kernel) trivial⟩
  have hstored : ((i.database? "db").bind fun db => (db.design? "d").map fun _ =>
      (db.store.designs.get? "_design/e").isNone) = some true := by
    decide +kernel
  obtain ⟨db, hdb, hdesign⟩ := Option.bind_eq_some_iff.mp hstored
  obtain ⟨document, hdocument, hnone⟩ := Option.map_eq_some_iff.mp hdesign
  have hfree : db.store.designs.get? "_design/e" = none := Option.isNone_iff_eq_none.mp hnone
  have hpath : Resource.ofRequest? request = some (.database "db" (.designDocument "d")) := by
    decide +kernel
  have hnames : Names i "db" "d" "db" "d" db :=
    ⟨Handler.segment_eq_ok_iff.mpr (by decide +kernel),
      Handler.segment_eq_ok_iff.mpr (by decide +kernel), hdb⟩
  have hcopies : CopiesDesign i request "db" "d" "_design/e" db document :=
    ⟨by decide +kernel, rfl, ⟨"db", "d", hpath, hnames⟩, hdocument, by decide +kernel,
      by decide +kernel⟩
  obtain ⟨after, hstatus, hafter, -, hlater⟩ := copyDesign_twins hi hcopies hfree stamps
  refine ⟨hi, ⟨db, document, hcopies, hfree⟩, hcalls, hstatus, ?_⟩
  rw [hafter]
  exact hlater calls hcalls

end DocumentDb.Server
