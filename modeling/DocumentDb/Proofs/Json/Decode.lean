import DocumentDb.Json.Decode
import Mathlib.Tactic.Common

/-!
# Outcomes and their parts

What is known of the parts of an outcome that is a success or an error, for outcomes that are put
together by sequencing and by changing the error; and what a value was that has been decoded.
-/

namespace DocumentDb

universe u v w

/-! ### Sequences of outcomes -/

section Outcomes

variable {ε : Type u} {α β : Type v}

/-- A sequence succeeds when its first part does, and its second part does on the answer. -/
lemma bind_eq_ok_iff {first : Except ε α} {next : α → Except ε β} {answer : β} :
    first >>= next = .ok answer ↔ ∃ value, first = .ok value ∧ next value = .ok answer := by
  cases first with
  | error error => simp [bind, Except.bind]
  | ok value => simp [bind, Except.bind]

/-- A sequence fails when its first part does, or its second part does on the answer. -/
lemma bind_eq_error_iff {first : Except ε α} {next : α → Except ε β} {error : ε} :
    first >>= next = .error error ↔
      first = .error error ∨ ∃ value, first = .ok value ∧ next value = .error error := by
  cases first with
  | error error => simp [bind, Except.bind]
  | ok value => simp [bind, Except.bind]

@[simp] lemma map_eq_error_iff {change : α → β} {outcome : Except ε α} {error : ε} :
    change <$> outcome = .error error ↔ outcome = .error error := by
  cases outcome <;> simp [Functor.map, Except.map]

@[simp] lemma pure_ne_error {answer : α} {error : ε} :
    (pure answer : Except ε α) ≠ .error error := nofun

lemma mapError_eq_ok_iff {ε' : Type w} {outcome : Except ε α} {change : ε → ε'} {answer : α} :
    outcome.mapError change = .ok answer ↔ outcome = .ok answer := by
  cases outcome <;> simp [Except.mapError]

lemma mapError_eq_error_iff {ε' : Type w} {outcome : Except ε α} {change : ε → ε'} {error : ε'} :
    outcome.mapError change = .error error ↔
      ∃ cause, outcome = .error cause ∧ change cause = error := by
  cases outcome <;> simp [Except.mapError]

end Outcomes

/-! ### Values that were decoded -/

/-- A part of a value that stands for a record: a field of an object, an item of an array. -/
def Json.part? (value : Json) (name : String) (place : Nat) : Option Json :=
  match value with
  | .object fields => Fields.value? fields name
  | .array items => items[place]?
  | _ => none

namespace Decode

variable {α : Type} {value : Json}

lemma string_eq_ok_iff {s : String} : string value = .ok s ↔ value = .string s := by
  cases value <;> simp [string]

lemma Record.required_string_eq_ok_iff {record : Record} {place : Nat} {key s : String} :
    record.required place key string = .ok s ↔ record.field? place key = some (.string s) := by
  rw [required]
  cases record.field? place key with
  | none => simp
  | some value => simp [string_eq_ok_iff]

lemma Record.eq_of_optional_string {record : Record} {place : Nat} {key : String}
    {s? : Option String} (h : record.optional place key string = .ok s?) :
    (record.field? place key).bind Json.string? = s? := by
  rw [optional] at h
  split at h
  · rename_i hnone
    cases h
    rw [hnone]
    rfl
  · rename_i hnull
    cases h
    rw [hnull]
    rfl
  · rename_i value hvalue hsome
    rw [hsome]
    cases value <;> cases h
    rfl

/-- The fields of a record are the parts of the value that it was read from. -/
lemma Record.field?_eq_part? {kind : String} {size : Nat} {record : Record}
    (h : ofJson kind size value = .ok record) (key : String) (place : Nat) :
    record.field? place key = value.part? key place := by
  cases value with
  | object members =>
    cases h
    rfl
  | array items =>
    rw [ofJson] at h
    split at h
    · cases h
      rfl
    · cases h
  | _ => cases h

/-- Under each name, what is decoded of an object comes from what stands there last. -/
lemma rel_value?_fields {item : Json → Decoded α} {members : Fields Json} {decoded : Fields α}
    (h : fields item (.object members) = .ok decoded) (name : String) :
    Option.Rel (fun value a => item value = .ok a) (Fields.value? (Fields.ofList members) name)
      (Fields.value? (Fields.ofList decoded) name) := by
  suffices hfold : ∀ (before : Fields Json) (known : Fields α),
      (∀ other, Option.Rel (fun value a => item value = .ok a) (Fields.value? before other)
        (Fields.value? known other)) →
      Option.Rel (fun value a => item value = .ok a)
        (Fields.value? (members.foldl (fun fields pair => Fields.put fields pair.1 pair.2) before)
          name)
        (Fields.value? (decoded.foldl (fun fields pair => Fields.put fields pair.1 pair.2) known)
          name) from
    hfold [] [] fun _ => .none
  rw [fields] at h
  induction members generalizing decoded with
  | nil =>
    cases h
    exact fun _ _ hknown => hknown name
  | cons member members ih =>
    rw [List.mapM_cons] at h
    obtain ⟨entry, hentry, hrest⟩ := bind_eq_ok_iff.mp h
    obtain ⟨a, ha, hpair⟩ := bind_eq_ok_iff.mp hentry
    obtain ⟨others, hothers, hdecoded⟩ := bind_eq_ok_iff.mp hrest
    cases hpair
    cases hdecoded
    intro before known hknown
    refine ih hothers _ _ fun other => ?_
    rw [Fields.value?_put, Fields.value?_put]
    split
    · exact .some ha
    · exact hknown other

end Decode

end DocumentDb
