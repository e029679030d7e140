import DocumentDb.Proofs.Server.Changes

/-!
# What requests change

As handlers change the databases by one step at most, so do requests. What holds of new databases
and is kept by the operations that requests call then holds of every database of a reachable
instance. Requests that leave design documents alone keep the databases where they are as well.
-/

namespace DocumentDb.Server

/-! ### Requests -/

/-- Whether a request leaves the design documents of all databases alone. -/
def Request.KeepsDesigns (request : Request) : Prop :=
  ∀ raw part, Resource.ofRequest? request = some (.database raw part) →
    part.KeepsDesigns request.method.answeredAs

lemma Request.keepsDesigns_of_resource {request : Request} (raw : String) (part : DatabasePart)
    (hresource : Resource.ofRequest? request = some (.database raw part))
    (hkeeps : part.KeepsDesigns request.method.answeredAs) : request.KeepsDesigns := by
  intro other otherPart hother
  rw [hresource] at hother
  cases hother
  exact hkeeps

/-- A request leaves the instance as it is, or it is admitted and its handler says what becomes of
the instance. -/
lemma snd_serve (context : Context) (i : Instance) :
    (context.serve i).2 = i ∨
      ∃ handler, context.request.handler? = some handler ∧
        context.request.isAdmitted i = true ∧ (context.serve i).2 = (handler context i).2 := by
  unfold Context.serve Context.handle
  by_cases hoptions : context.request.method = .options
  · exact .inl (by simp only [hoptions, if_true])
  · cases hhandler : context.request.handler? with
    | none => exact .inl (by simp only [hoptions, if_false])
    | some handler =>
      cases hadmitted : context.request.isAdmitted i with
      | true => exact .inr ⟨handler, rfl, rfl, by simp only [hoptions, if_false, if_true]⟩
      | false => exact .inl (by simp only [hoptions, if_false, Bool.false_eq_true])

/-- A request changes the databases by one step at most. -/
lemma serve_change {allowed : Change → Prop} {context : Context} (i : Instance)
    (h : ∀ raw part handler, Resource.ofRequest? context.request = some (.database raw part) →
      part.handler? raw context.request.method.answeredAs = some handler →
      handler.Makes allowed) :
    (context.serve i).2.databases = i.databases ∨
      ∃ change, allowed change ∧ (context.serve i).2 = change.apply i := by
  rcases snd_serve context i with hsame | ⟨handler, hhandler, -, hafter⟩
  · exact .inl (by rw [hsame])
  · obtain ⟨resource, hresource, hhandler⟩ := Option.bind_eq_some_iff.mp hhandler
    rw [hafter]
    cases resource with
    | server endpoint => exact .inl (Endpoint.readOnly_handler? hhandler context i)
    | database raw part =>
      exact ((h raw part handler hresource hhandler).change context i).imp_left (by rw [·])

lemma serve_change_ofRequest (context : Context) (i : Instance) :
    (context.serve i).2.databases = i.databases ∨
      ∃ change : Change, change.OfRequest ∧ (context.serve i).2 = change.apply i :=
  serve_change i fun _ _ _ _ hhandler => DatabasePart.makes_handler? hhandler

lemma serve_change_keepsDesigns {context : Context} (i : Instance)
    (h : context.request.KeepsDesigns) :
    (context.serve i).2.databases = i.databases ∨
      ∃ change : Change, change.KeepsDesigns ∧ (context.serve i).2 = change.apply i :=
  serve_change i fun raw part _ hresource hhandler =>
    DatabasePart.makes_handler?_of_keepsDesigns hhandler (h raw part hresource)

/-! ### Databases after changes -/

namespace Change

variable {i : Instance} {change : Change} {name : String} {db : Database}

/-- A database after a change was there before, is new, or is one before with an operation carried
out. -/
lemma of_database?_apply (h : (change.apply i).database? name = some db) :
    i.database? name = some db ∨ db = .new name ∨
      ∃ before operation, change = .perform name operation ∧
        i.database? name = some before ∧ db = (before.perform operation).2 := by
  cases change with
  | create other =>
    simp only [apply, Instance.addDatabase] at h
    split at h
    · exact .inl h
    · simp only [Instance.database?, Table.get?_insert] at h
      split at h
      · rename_i hname
        cases h
        exact .inr (.inl (by rw [hname]))
      · exact .inl h
  | drop other =>
    simp only [apply, Instance.deleteDatabase] at h
    split at h
    · simp only [Instance.database?, Table.get?_erase] at h
      split at h
      · cases h
      · exact .inl h
    · exact .inl h
  | perform other operation =>
    simp only [apply] at h
    split at h
    · rename_i before hbefore
      simp only [Instance.database?, Instance.setDatabase, Table.get?_insert] at h
      split at h
      · rename_i hname
        cases h
        subst hname
        exact .inr (.inr ⟨before, operation, rfl, hbefore, rfl⟩)
      · exact .inl h
    · exact .inl h

/-- A database is still there after a change that keeps designs, with one operation carried out at
most. -/
lemma KeepsDesigns.database?_apply (h : change.KeepsDesigns) (hdb : i.database? name = some db) :
    (change.apply i).database? name = some db ∨
      ∃ operation : Operation, operation.KeepsDesigns ∧
        (change.apply i).database? name = some (db.perform operation).2 := by
  cases change with
  | create other =>
    refine .inl ?_
    simp only [apply, Instance.addDatabase]
    split
    · exact hdb
    · rename_i hother
      have hne : name ≠ other := by
        rintro rfl
        exact hother (Table.contains_iff.mpr ⟨db, hdb⟩)
      simpa only [Instance.database?, Table.get?_insert, if_neg hne] using hdb
  | drop other => exact h.elim
  | perform other operation =>
    simp only [apply]
    split
    · rename_i before hbefore
      by_cases hname : name = other
      · subst hname
        obtain rfl : before = db := Option.some.inj (hbefore.symm.trans hdb)
        exact .inr ⟨operation, h, database?_setDatabase i name _⟩
      · refine .inl ?_
        simpa only [Instance.database?, Instance.setDatabase, Table.get?_insert, if_neg hname]
          using hdb
    · exact .inl hdb

end Change

/-! ### Runs -/

/-- What holds of new databases and is kept by the operations that requests call holds of every
database of a reachable instance. -/
theorem Reachable.induct_databases {motive : Database → Prop} (init : ∀ name, motive (.new name))
    (step : ∀ db operation, Operation.OfRequest operation → motive db →
      motive (db.perform operation).2)
    {config : Config} {i : Instance} (h : Reachable config i) {name : String} {db : Database}
    (hdb : i.database? name = some db) : motive db := by
  have hrun : ∀ (calls : List Call) (i : Instance),
      (∀ name db, i.database? name = some db → motive db) →
      ∀ name db, (served config i calls).database? name = some db → motive db := by
    intro calls
    induction calls with
    | nil => exact fun i hi => hi
    | cons call calls ih =>
      intro i hi
      rw [served_cons]
      refine ih _ fun name db hdb => ?_
      rcases serve_change_ofRequest ⟨config, call.1, call.2⟩ i with
        hsame | ⟨change, hchange, hafter⟩
      · rw [Instance.database?, hsame] at hdb
        exact hi name db hdb
      · rw [hafter] at hdb
        rcases Change.of_database?_apply hdb with
          hbefore | rfl | ⟨before, operation, rfl, hbefore, rfl⟩
        · exact hi name db hbefore
        · exact init name
        · exact step before operation hchange (hi name before hbefore)
  have hstart : ∀ name db, Instance.empty.database? name = some db → motive db := by
    intro name db hdb
    simp [Instance.database?, Instance.empty] at hdb
  obtain ⟨calls, rfl | rfl⟩ := h
  · exact hrun calls .empty hstart name db hdb
  · exact hrun calls Instance.empty.authenticate hstart name db hdb

/-- A database stays through requests that keep designs, and so does what the operations that keep
designs keep of it. -/
theorem database?_served_of_keepsDesigns {motive : Database → Prop}
    (step : ∀ db operation, Operation.KeepsDesigns operation → motive db →
      motive (db.perform operation).2)
    {config : Config} {calls : List Call} (hcalls : ∀ call ∈ calls, call.1.KeepsDesigns)
    {i : Instance} {name : String} {db : Database} (hdb : i.database? name = some db)
    (h : motive db) :
    ∃ after, (served config i calls).database? name = some after ∧ motive after := by
  induction calls generalizing i db with
  | nil => exact ⟨db, hdb, h⟩
  | cons call calls ih =>
    rw [served_cons]
    have hrest := fun call hcall => hcalls call (List.mem_cons_of_mem _ hcall)
    rcases @serve_change_keepsDesigns ⟨config, call.1, call.2⟩ i
        (hcalls call List.mem_cons_self) with hsame | ⟨change, hchange, hafter⟩
    · exact ih hrest (by rwa [Instance.database?, hsame]) h
    · rcases hchange.database?_apply hdb with hfound | ⟨operation, hoperation, hfound⟩
      · exact ih hrest (by rwa [hafter]) h
      · exact ih hrest (by rwa [hafter]) (step db operation hoperation h)

end DocumentDb.Server
