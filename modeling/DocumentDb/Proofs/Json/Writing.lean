import DocumentDb.Json.Path
import Mathlib.Tactic.Common

/-!
# Writing along a path

What segments lead to after a write. A write passes through objects; where it meets anything else it
puts an object in its place. So a value that is no object is lost, and what is left of it are the
fields that are written below it.
-/

namespace DocumentDb

namespace Fields

variable {α : Type} {fields : Fields α} {writes : List (String × α)}

/-- Write fields over others, one after the other. -/
def putAll (fields : Fields α) (writes : List (String × α)) : Fields α :=
  writes.foldl (fun fields write => put fields write.1 write.2) fields

/-- The first field takes the writes under its key, the rest takes the others. -/
lemma putAll_cons (key : String) (value : α) (rest : Fields α) (writes : List (String × α)) :
    ∃ last, putAll ((key, value) :: rest) writes =
      (key, last) :: putAll rest (writes.filter (·.1 ≠ key)) := by
  induction writes generalizing value rest with
  | nil => exact ⟨value, rfl⟩
  | cons write writes ih =>
    by_cases h : write.1 = key
    · obtain ⟨last, hlast⟩ := ih write.2 rest
      refine ⟨last, ?_⟩
      simpa [putAll, put, h] using hlast
    · obtain ⟨last, hlast⟩ := ih value (put rest write.1 write.2)
      refine ⟨last, ?_⟩
      simpa [putAll, put, h] using hlast

lemma value?_putAll_of_notMem {key : String} (h : ∀ write ∈ writes, write.1 ≠ key)
    (fields : Fields α) : value? (putAll fields writes) key = value? fields key := by
  induction writes generalizing fields with
  | nil => rfl
  | cons write writes ih =>
    rw [List.forall_mem_cons] at h
    have hrest := ih h.2 (put fields write.1 write.2)
    rw [value?_put, if_neg (Ne.symm h.1)] at hrest
    exact hrest

/-- Writes under keys that are there change nothing if each key has its value again in the end. -/
lemma putAll_eq_self (hkeys : ∀ write ∈ writes, write.1 ∈ keys fields)
    (hsame : ∀ key, value? (putAll fields writes) key = value? fields key) :
    putAll fields writes = fields := by
  induction fields generalizing writes with
  | nil =>
    have hnil : writes = [] := by
      apply List.eq_nil_iff_forall_not_mem.mpr
      intro write hwrite
      cases hkeys write hwrite
    rw [hnil]
    rfl
  | cons field rest ih =>
    obtain ⟨key, value⟩ := field
    obtain ⟨last, hlast⟩ := putAll_cons key value rest writes
    simp only [hlast, value?_cons] at hsame
    have hvalue : last = value := by simpa using hsame key
    have hrest : putAll rest (writes.filter (·.1 ≠ key)) = rest := by
      apply ih
      · intro write hwrite
        obtain ⟨hmem, hkey⟩ := List.mem_filter.mp hwrite
        have hin := hkeys write hmem
        simp_all
      · intro other
        by_cases hother : other = key
        · rw [hother]
          apply value?_putAll_of_notMem
          intro write hwrite
          simpa using (List.mem_filter.mp hwrite).2
        · simpa [hother] using hsame other
    rw [hlast, hvalue, hrest]

end Fields

namespace Json

/-! ### Reading -/

lemma segments_ne_nil (path : String) : segments path ≠ [] := by
  intro h
  exact Text.splitChars_ne_nil '.' path.toList (List.map_eq_nil_iff.mp h)

@[simp] lemma getAt_nil (value : Json) : getAt value [] = some value := by
  cases value <;> rfl

lemma getAt_cons (value : Json) (segment : String) (rest : List String) :
    getAt value (segment :: rest) = (getAt value [segment]).bind (getAt · rest) := by
  cases value with
  | object fields => cases h : Fields.value? fields segment <;> simp [getAt, h]
  | array items => cases h : item? items segment <;> simp [getAt, h]
  | null | bool | number | string => rfl

/-- Segments lead to where the last of them lead from where the first of them lead. -/
lemma getAt_append (value : Json) (front rest : List String) :
    getAt value (front ++ rest) = (getAt value front).bind (getAt · rest) := by
  induction front generalizing value with
  | nil => simp
  | cons segment front ih =>
    rw [List.cons_append, getAt_cons, getAt_cons value segment front]
    cases getAt value [segment] with
    | none => rfl
    | some child => exact ih child

/-- What is read below a field is read below the object. -/
lemma getAt_of_field {state : Option Json} {segment : String} {rest : List String} {value : Json}
    (h : (Fields.value? (objectFields state) segment).bind (getAt · rest) = some value) :
    state.bind (getAt · (segment :: rest)) = some value := by
  cases state with
  | none => cases h
  | some found =>
    cases found with
    | object fields => exact h
    | null | bool | number | string | array => cases h

/-! ### Writing -/

/-- Write a value at the end of segments below a value that may be missing. -/
def writeAt : Option Json → List String → Json → Json
  | _, [], value => value
  | state, segment :: rest, value =>
    .object (Fields.put (objectFields state) segment
      (writeAt (Fields.value? (objectFields state) segment) rest value))

/-- A write at a path of an object is one below the object. -/
lemma object_setAt (fields : Fields Json) (segment : String) (rest : List String) (value : Json) :
    .object (setAt fields (segment :: rest) value) =
      writeAt (some (.object fields)) (segment :: rest) value := by
  induction rest generalizing fields segment with
  | nil => rfl
  | cons next rest ih =>
    rw [setAt, ih]
    rfl

lemma object_set (fields : Fields Json) (path : String) (value : Json) :
    .object (set fields path value) = writeAt (some (.object fields)) (segments path) value := by
  rw [set]
  cases h : segments path with
  | nil => exact absurd h (segments_ne_nil path)
  | cons segment rest => exact object_setAt fields segment rest value

/-- A write changes the field that its first segment names. -/
lemma value?_writeAt (state : Option Json) (segment : String) (rest : List String) (value : Json)
    (key : String) :
    Fields.value? (objectFields (some (writeAt state (segment :: rest) value))) key =
      if key = segment then some (writeAt (Fields.value? (objectFields state) segment) rest value)
      else Fields.value? (objectFields state) key :=
  Fields.value?_put _ _ _ _

/-- On the way of a write lie objects. -/
lemma getAt_writeAt_front (state : Option Json) (front : List String) (segment : String)
    (rest : List String) (value : Json) :
    ∃ fields, getAt (writeAt state (front ++ segment :: rest) value) front =
      some (.object fields) := by
  induction front generalizing state with
  | nil => exact ⟨_, getAt_nil _⟩
  | cons first front ih =>
    obtain ⟨fields, hfields⟩ := ih (Fields.value? (objectFields state) first)
    refine ⟨fields, ?_⟩
    simp [writeAt, getAt, Fields.value?_put, hfields]

/-- No array is found below a write that has not been there, unless the write is above of it. -/
lemma getAt_of_writeAt {state : Option Json} {written whole : List String} {value : Json}
    {items : List Json} (habove : ¬ written <+: whole)
    (h : getAt (writeAt state written value) whole = some (.array items)) :
    state.bind (getAt · whole) = some (.array items) := by
  induction written generalizing state whole with
  | nil => exact absurd (List.nil_prefix) habove
  | cons segment rest ih =>
    cases whole with
    | nil => simp [writeAt] at h
    | cons key below =>
      apply getAt_of_field
      simp only [writeAt, getAt, Fields.value?_put] at h
      by_cases hkey : key = segment
      · subst hkey
        rw [List.cons_prefix_cons] at habove
        rw [if_pos rfl] at h
        exact ih (fun hbelow => habove ⟨rfl, hbelow⟩) h
      · rw [if_neg hkey] at h
        exact h

end Json

end DocumentDb
