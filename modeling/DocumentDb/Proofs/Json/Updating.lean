import DocumentDb.Proofs.Json.Writing

/-!
# Reading after a write

A write at a path is an update of one place in a nested map: the path leads to the new value, and
paths that part from it lead where they led before, as long as the write passes through objects
only. Were there an array on its way, an object would take the place of the array.
-/

namespace DocumentDb.Json

variable {state : Option Json} {written read : List String}

/-- Whether two lists of segments differ at a position that both have. -/
def Diverge (written read : List String) : Prop :=
  ∃ (position : Nat) (first second : String),
    written[position]? = some first ∧ read[position]? = some second ∧ first ≠ second

lemma diverge_cons_iff {first second : String} :
    Diverge (first :: written) (second :: read) ↔ first ≠ second ∨ Diverge written read := by
  constructor
  · rintro ⟨position, a, b, ha, hb, hne⟩
    cases position with
    | zero =>
      rw [List.getElem?_cons_zero, Option.some.injEq] at ha hb
      exact .inl (ha ▸ hb ▸ hne)
    | succ position => exact .inr ⟨position, a, b, ha, hb, hne⟩
  · rintro (hne | ⟨position, a, b, ha, hb, hne⟩)
    · exact ⟨0, first, second, rfl, rfl, hne⟩
    · exact ⟨position + 1, a, b, ha, hb, hne⟩

/-- Whether a value is missing or an object, so that a write passes through it. -/
def IsPassable (state : Option Json) : Prop := ∀ found, state = some found → found.isObject = true

/-- Below what a write passes through, segments lead where they lead below its fields. -/
lemma IsPassable.bind_getAt_cons (h : IsPassable state) (segment : String) (rest : List String) :
    state.bind (getAt · (segment :: rest)) =
      (Fields.value? (objectFields state) segment).bind (getAt · rest) := by
  cases state with
  | none => rfl
  | some found =>
    obtain ⟨fields, rfl⟩ := isObject_iff.mp (h found rfl)
    rfl

/-- A write puts the value where its segments lead. -/
lemma getAt_writeAt (state : Option Json) (written : List String) (value : Json) :
    getAt (writeAt state written value) written = some value := by
  induction written generalizing state with
  | nil => exact getAt_nil value
  | cons segment rest ih =>
    rw [writeAt, getAt, Fields.value?_put, if_pos rfl]
    exact ih _

/-- Segments that part from those of a write lead where they led before. -/
lemma getAt_writeAt_of_diverge
    (hpass : ∀ front, front <+: written → front ≠ written → IsPassable (state.bind (getAt · front)))
    (h : Diverge written read) (value : Json) :
    getAt (writeAt state written value) read = state.bind (getAt · read) := by
  induction written generalizing state read with
  | nil =>
    obtain ⟨position, first, second, hfirst, -, -⟩ := h
    cases hfirst
  | cons segment rest ih =>
    cases read with
    | nil =>
      obtain ⟨position, first, second, -, hsecond, -⟩ := h
      cases hsecond
    | cons key below =>
      have hstate : IsPassable state := by
        simpa using hpass [] List.nil_prefix (List.cons_ne_nil _ _).symm
      rw [hstate.bind_getAt_cons, writeAt, getAt, Fields.value?_put]
      by_cases hkey : key = segment
      · subst hkey
        have hbelow : Diverge rest below := (diverge_cons_iff.mp h).resolve_left fun hne => hne rfl
        rw [if_pos rfl]
        refine ih (fun front hfront hne => ?_) hbelow
        rw [← hstate.bind_getAt_cons]
        exact hpass (key :: front) (List.cons_prefix_cons.mpr ⟨rfl, hfront⟩) (by simpa using hne)
      · rw [if_neg hkey]

/-- After a write at a path of an object, the path leads to the value. Every path that parts from it
leads where it led before, if the proper prefixes of the path lead to objects or nowhere. -/
theorem get?_set (fields : Fields Json) (path : String) (value : Json) :
    (object (set fields path value)).get? path = some value ∧
      ((∀ front, front <+: segments path → front ≠ segments path →
          getAt (object fields) front = none ∨
            ∃ inner, getAt (object fields) front = some (object inner)) →
        ∀ other, Diverge (segments path) (segments other) →
          (object (set fields path value)).get? other = (object fields).get? other) := by
  rw [object_set]
  refine ⟨getAt_writeAt _ _ _, fun hfronts other hother => ?_⟩
  refine getAt_writeAt_of_diverge (fun front hfront hne found hfound => ?_) hother value
  rw [Option.bind_some] at hfound
  rcases hfronts front hfront hne with hmissing | ⟨inner, hinner⟩
  · rw [hmissing] at hfound
    cases hfound
  · rw [hinner, Option.some.injEq] at hfound
    exact hfound ▸ rfl

/-- A write below an empty key keeps what stands beside it. -/
theorem get?_set_beside :
    let fields : Fields Json := [("a", object [("", object [("1", int 5)])])]
    let after := object (set fields "a..0" (int 7))
    (∀ front, front <+: segments "a..0" → front ≠ segments "a..0" →
        getAt (object fields) front = none ∨
          ∃ inner, getAt (object fields) front = some (object inner)) ∧
      Diverge (segments "a..0") (segments "a..1") ∧
      after.get? "a..0" = some (int 7) ∧ after.get? "a..1" = some (int 5) := by
  intro fields after
  have hpath : segments "a..0" = ["a", "", "0"] := by decide
  have hfronts : ∀ front, front <+: segments "a..0" → front ≠ segments "a..0" →
      getAt (object fields) front = none ∨
        ∃ inner, getAt (object fields) front = some (object inner) := by
    intro front hfront hne
    simp only [hpath, List.prefix_cons_iff, List.prefix_nil] at hfront hne
    rcases hfront with rfl | ⟨_, rfl, rfl | ⟨_, rfl, rfl | ⟨_, rfl, rfl⟩⟩⟩
    · exact .inr ⟨_, rfl⟩
    · exact .inr ⟨_, rfl⟩
    · exact .inr ⟨_, rfl⟩
    · exact absurd rfl hne
  have hdiverge : Diverge (segments "a..0") (segments "a..1") := ⟨2, "0", "1", by decide⟩
  obtain ⟨hwritten, hkept⟩ := get?_set fields "a..0" (int 7)
  exact ⟨hfronts, hdiverge, hwritten, hkept hfronts "a..1" hdiverge⟩

end DocumentDb.Json
