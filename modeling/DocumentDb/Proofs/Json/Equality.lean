import DocumentDb.Json.Coercion
import DocumentDb.Json.Order
import DocumentDb.Json.Path
import DocumentDb.Json.Reader
import Mathlib.Data.List.Forall2
import Mathlib.Data.List.Nodup
import Mathlib.Data.List.Perm.Subperm
import Mathlib.Tactic.Common

/-!
# Equal values cannot be told apart

Values are equal up to the order of fields and the spelling of numbers. Where no object repeats a
key, as in every value that is read from a text, equal values have the same kind, equal items in the
same places and equal values under the same keys. So equality itself, the order of the selector
operators and what lies at the end of a path are the same for equal values.
-/

namespace DocumentDb

/-! ### Lists related both ways -/

/-- Every item of either list is related to one of the other. -/
def Paired {α β : Type} (R : α → β → Prop) (xs : List α) (ys : List β) : Prop :=
  (∀ x ∈ xs, ∃ y ∈ ys, R x y) ∧ ∀ y ∈ ys, ∃ x ∈ xs, R x y

namespace Paired

variable {α β γ : Type} {R : α → β → Prop} {S : β → γ → Prop} {T : α → γ → Prop}
  {xs : List α} {ys : List β} {zs : List γ}

lemma flip (h : Paired R xs ys) : Paired (fun y x => R x y) ys xs := ⟨h.2, h.1⟩

/-- Relations of lists compose. -/
lemma comp (h : Paired R xs ys) (hnext : Paired S ys zs)
    (hboth : ∀ x ∈ xs, ∀ y ∈ ys, ∀ z ∈ zs, R x y → S y z → T x z) : Paired T xs zs := by
  constructor
  · intro x hx
    obtain ⟨y, hy, hxy⟩ := h.1 x hx
    obtain ⟨z, hz, hyz⟩ := hnext.1 y hy
    exact ⟨z, hz, hboth x hx y hy z hz hxy hyz⟩
  · intro z hz
    obtain ⟨y, hy, hyz⟩ := hnext.2 z hz
    obtain ⟨x, hx, hxy⟩ := h.2 y hy
    exact ⟨x, hx, hboth x hx y hy z hz hxy hyz⟩

lemma imp {R' : α → β → Prop} (h : Paired R xs ys)
    (himp : ∀ x ∈ xs, ∀ y ∈ ys, R x y → R' x y) : Paired R' xs ys := by
  constructor
  · intro x hx
    obtain ⟨y, hy, hxy⟩ := h.1 x hx
    exact ⟨y, hy, himp x hx y hy hxy⟩
  · intro y hy
    obtain ⟨x, hx, hxy⟩ := h.2 y hy
    exact ⟨x, hx, himp x hx y hy hxy⟩

lemma nil : Paired R [] [] := by
  constructor <;> simp

lemma cons {x : α} {y : β} (h : Paired R xs ys) (hxy : R x y) :
    Paired R (x :: xs) (y :: ys) := by
  constructor
  · simp only [List.mem_cons, exists_eq_or_imp, forall_eq_or_imp]
    exact ⟨.inl hxy, fun x hx => .inr (h.1 x hx)⟩
  · simp only [List.mem_cons, exists_eq_or_imp, forall_eq_or_imp]
    exact ⟨.inl hxy, fun y hy => .inr (h.2 y hy)⟩

/-- Lists related item by item are related both ways. -/
lemma of_forall₂ (h : List.Forall₂ R xs ys) : Paired R xs ys := by
  induction h with
  | nil => exact nil
  | cons hxy _ ih => exact ih.cons hxy

lemma isEmpty_eq (h : Paired R xs ys) : xs.isEmpty = ys.isEmpty := by
  rw [Bool.eq_iff_iff, List.isEmpty_iff, List.isEmpty_iff]
  constructor
  · rintro rfl
    refine List.eq_nil_iff_forall_not_mem.mpr fun y hy => ?_
    obtain ⟨x, hx, -⟩ := h.2 y hy
    cases hx
  · rintro rfl
    refine List.eq_nil_iff_forall_not_mem.mpr fun x hx => ?_
    obtain ⟨y, hy, -⟩ := h.1 x hx
    cases hy

/-- A property that related items share is in either list or in none. -/
lemma any_eq {p : α → Bool} {q : β → Bool} (h : Paired R xs ys)
    (hpq : ∀ x ∈ xs, ∀ y ∈ ys, R x y → p x = q y) : xs.any p = ys.any q := by
  rw [Bool.eq_iff_iff, List.any_eq_true, List.any_eq_true]
  constructor
  · rintro ⟨x, hx, hp⟩
    obtain ⟨y, hy, hxy⟩ := h.1 x hx
    exact ⟨y, hy, hpq x hx y hy hxy ▸ hp⟩
  · rintro ⟨y, hy, hq⟩
    obtain ⟨x, hx, hxy⟩ := h.2 y hy
    exact ⟨x, hx, hpq x hx y hy hxy ▸ hq⟩

lemma all_eq {p : α → Bool} {q : β → Bool} (h : Paired R xs ys)
    (hpq : ∀ x ∈ xs, ∀ y ∈ ys, R x y → p x = q y) : xs.all p = ys.all q := by
  rw [List.all_eq_not_any_not, List.all_eq_not_any_not, h.any_eq]
  intro x hx y hy hxy
  rw [hpq x hx y hy hxy]

end Paired

namespace Json

/-- Induction over a value, its items and the values of its fields. -/
@[elab_as_elim]
theorem induction {motive : Json → Prop} (null : motive .null) (bool : ∀ b, motive (.bool b))
    (number : ∀ n, motive (.number n)) (string : ∀ s, motive (.string s))
    (array : ∀ items, (∀ item ∈ items, motive item) → motive (.array items))
    (object : ∀ fields, (∀ field ∈ fields, motive field.2) → motive (.object fields))
    (value : Json) : motive value := by
  cases value with
  | null => exact null
  | bool b => exact bool b
  | number n => exact number n
  | string s => exact string s
  | array items =>
    refine array items fun item _ => ?_
    exact induction null bool number string array object item
  | object fields =>
    refine object fields fun field _ => ?_
    exact induction null bool number string array object field.2
termination_by sizeOf value
decreasing_by
  · have hitem : sizeOf item < sizeOf items := List.sizeOf_lt_of_mem ‹_›
    simp only [Json.array.sizeOf_spec]
    omega
  · have hfield : sizeOf field < sizeOf fields := List.sizeOf_lt_of_mem ‹_›
    have hvalue : sizeOf field.2 < sizeOf field := by
      cases field
      simp only [Prod.mk.sizeOf_spec]
      omega
    simp only [Json.object.sizeOf_spec]
    omega

/-- Whether a value is neither an array nor an object. -/
def isScalar : Json → Bool
  | .array _ | .object _ => false
  | _ => true

/-! ### Values without repeated keys -/

mutual

/-- Whether no object in a value repeats a key. -/
def distinctKeys : Json → Bool
  | .array items => distinctKeysItems items
  | .object fields => decide (Fields.keys fields).Nodup && distinctKeysFields fields
  | _ => true

@[inherit_doc distinctKeys]
def distinctKeysItems : List Json → Bool
  | [] => true
  | item :: items => distinctKeys item && distinctKeysItems items

@[inherit_doc distinctKeys]
def distinctKeysFields : List (String × Json) → Bool
  | [] => true
  | (_, value) :: fields => distinctKeys value && distinctKeysFields fields

end

lemma distinctKeys_array {items : List Json} :
    (Json.array items).distinctKeys = true ↔ ∀ item ∈ items, item.distinctKeys = true := by
  rw [distinctKeys]
  induction items with
  | nil => simp [distinctKeysItems]
  | cons item items ih => simp [distinctKeysItems, ih]

lemma distinctKeys_object {fields : List (String × Json)} :
    (Json.object fields).distinctKeys = true ↔
      (Fields.keys fields).Nodup ∧ ∀ field ∈ fields, field.2.distinctKeys = true := by
  rw [distinctKeys, Bool.and_eq_true, decide_eq_true_iff]
  suffices h : distinctKeysFields fields = true ↔ ∀ field ∈ fields, field.2.distinctKeys = true by
    rw [h]
  induction fields with
  | nil => simp [distinctKeysFields]
  | cons field fields ih => simp [distinctKeysFields, ih]

lemma distinctKeys_of_isScalar {value : Json} (h : value.isScalar = true) :
    value.distinctKeys = true := by
  cases value with
  | null | bool | number | string => rfl
  | array | object => cases h

mutual

/-- A value that is read repeats no key: a repeated key is merged. -/
lemma distinctKeys_mergeRepeated (value : Json) : value.mergeRepeated.distinctKeys = true := by
  match value with
  | .null | .bool _ | .number _ | .string _ => rfl
  | .array items =>
    rw [mergeRepeated, distinctKeys_array]
    exact distinctKeys_mergeRepeatedItems items
  | .object fields =>
    rw [mergeRepeated, distinctKeys_object]
    refine ⟨Fields.nodup_keys_ofList _, fun field hfield => ?_⟩
    exact distinctKeys_mergeRepeatedFields fields field (Fields.mem_of_mem_ofList hfield)

lemma distinctKeys_mergeRepeatedItems (items : List Json) :
    ∀ item ∈ mergeRepeatedItems items, item.distinctKeys = true := by
  match items with
  | [] => simp [mergeRepeatedItems]
  | item :: items =>
    rw [mergeRepeatedItems, List.forall_mem_cons]
    exact ⟨distinctKeys_mergeRepeated item, distinctKeys_mergeRepeatedItems items⟩

lemma distinctKeys_mergeRepeatedFields (fields : List (String × Json)) :
    ∀ field ∈ mergeRepeatedFields fields, field.2.distinctKeys = true := by
  match fields with
  | [] => simp [mergeRepeatedFields]
  | (key, value) :: fields =>
    rw [mergeRepeatedFields, List.forall_mem_cons]
    exact ⟨distinctKeys_mergeRepeated value, distinctKeys_mergeRepeatedFields fields⟩

end

/-- No value that is read from a text repeats a key. -/
lemma distinctKeys_of_read? {s : String} {value : Json} (h : read? s = some value) :
    value.distinctKeys = true := by
  obtain ⟨spelled, -, rfl⟩ := Option.map_eq_some_iff.mp h
  exact distinctKeys_mergeRepeated spelled

/-! ### Equality by parts -/

lemma deepEqualItems_iff {as bs : List Json} :
    deepEqualItems as bs = true ↔ List.Forall₂ (fun a b => a.deepEqual b = true) as bs := by
  induction as generalizing bs with
  | nil => cases bs <;> simp [deepEqualItems]
  | cons a as ih => cases bs <;> simp [deepEqualItems, ih]

lemma deepEqualFields_iff {as bs : List (String × Json)} :
    deepEqualFields as bs = true ↔
      ∀ field ∈ as, ∃ b, Fields.value? bs field.1 = some b ∧ field.2.deepEqual b = true := by
  induction as with
  | nil => simp [deepEqualFields]
  | cons field as ih =>
    obtain ⟨key, a⟩ := field
    rw [deepEqualFields, Bool.and_eq_true, ih, List.forall_mem_cons]
    refine and_congr_left fun _ => ?_
    cases Fields.value? bs key <;> simp

/-- Objects are equal where they have equal values under every key. As the keys are distinct and
there are as many in both, none of the second object is left over. -/
lemma deepEqual_object {as bs : List (String × Json)} (has : (Fields.keys as).Nodup)
    (hbs : (Fields.keys bs).Nodup) :
    (Json.object as).deepEqual (.object bs) = true ↔
      ∀ key, optionalEqual (Fields.value? as key) (Fields.value? bs key) = true := by
  simp only [deepEqual, Bool.and_eq_true, beq_iff_eq, deepEqualFields_iff]
  constructor
  · rintro ⟨hlength, hfields⟩ key
    cases ha : Fields.value? as key with
    | some a =>
      obtain ⟨b, hb, hab⟩ := hfields _ ((Fields.value?_eq_some_iff has).mp ha)
      simpa [hb, optionalEqual] using hab
    | none =>
      have hsubset : Fields.keys as ⊆ Fields.keys bs := by
        intro k hk
        obtain ⟨field, hfield, rfl⟩ := List.mem_map.mp hk
        obtain ⟨b, hb, -⟩ := hfields field hfield
        exact Fields.isSome_value?_iff.mp (by rw [hb]; rfl)
      -- as many keys, none of them twice: those of the second object are all used up
      have hperm : (Fields.keys as).Perm (Fields.keys bs) :=
        (List.subperm_of_subset has hsubset).perm_of_length_le (by simp [Fields.keys, hlength])
      have hkey : key ∉ Fields.keys bs := by
        rw [← hperm.mem_iff, ← Fields.isSome_value?_iff, ha]
        simp
      rw [← Fields.isSome_value?_iff, Bool.not_eq_true, Option.isSome_eq_false_iff,
        Option.isNone_iff_eq_none] at hkey
      rw [hkey]
      rfl
  · intro h
    have hkeys : (Fields.keys as).Perm (Fields.keys bs) := by
      rw [List.perm_ext_iff_of_nodup has hbs]
      intro key
      have hkey := h key
      rw [← Fields.isSome_value?_iff, ← Fields.isSome_value?_iff]
      cases ha : Fields.value? as key <;> cases hb : Fields.value? bs key <;>
        simp_all [optionalEqual]
    refine ⟨by simpa [Fields.keys] using hkeys.length_eq, fun field hfield => ?_⟩
    have hkey := h field.1
    rw [(Fields.value?_eq_some_iff has).mpr hfield] at hkey
    cases hb : Fields.value? bs field.1 with
    | some b =>
      refine ⟨b, rfl, ?_⟩
      simpa [hb, optionalEqual] using hkey
    | none => simp [hb, optionalEqual] at hkey

/-! ### Values that are the same -/

/-- Equal values of which none repeats a key. -/
structure Same (a b : Json) : Prop where
  deepEqual : a.deepEqual b = true
  left : a.distinctKeys = true
  right : b.distinctKeys = true

/-- How two values that are the same look. -/
inductive SameShape : Json → Json → Prop
  | null : SameShape .null .null
  | bool (b : Bool) : SameShape (.bool b) (.bool b)
  | number {m n : Number} (h : m.toDouble.units = n.toDouble.units) :
      SameShape (.number m) (.number n)
  | string (s : String) : SameShape (.string s) (.string s)
  | array {as bs : List Json} (h : List.Forall₂ Same as bs) : SameShape (.array as) (.array bs)
  | object {as bs : List (String × Json)} (has : (Fields.keys as).Nodup)
      (hbs : (Fields.keys bs).Nodup)
      (h : ∀ key, Option.Rel Same (Fields.value? as key) (Fields.value? bs key)) :
      SameShape (.object as) (.object bs)

namespace Same

lemma shape {a b : Json} (h : Same a b) : SameShape a b := by
  obtain ⟨hequal, ha, hb⟩ := h
  cases a <;> cases b <;> try cases hequal
  case null.null => exact .null
  case bool.bool a b =>
    obtain rfl : a = b := by simpa [Json.deepEqual] using hequal
    exact .bool a
  case number.number m n => exact .number (by simpa [Json.deepEqual, Double.numericEq] using hequal)
  case string.string s t =>
    obtain rfl : s = t := by simpa [Json.deepEqual] using hequal
    exact .string s
  case array.array as bs =>
    rw [distinctKeys_array] at ha hb
    rw [Json.deepEqual, deepEqualItems_iff, List.forall₂_iff_zip] at hequal
    refine .array (List.forall₂_iff_zip.mpr ⟨hequal.1, fun {a b} hmem => ?_⟩)
    obtain ⟨hina, hinb⟩ := List.of_mem_zip hmem
    exact ⟨hequal.2 hmem, ha a hina, hb b hinb⟩
  case object.object as bs =>
    rw [distinctKeys_object] at ha hb
    rw [deepEqual_object ha.1 hb.1] at hequal
    refine .object ha.1 hb.1 fun key => ?_
    have hkey := hequal key
    cases hfound : Fields.value? as key <;> cases hfound' : Fields.value? bs key <;>
      simp only [hfound, hfound', optionalEqual, Bool.false_eq_true] at hkey
    case none.none => exact .none
    case some.some a b =>
      have hina := (Fields.value?_eq_some_iff ha.1).mp hfound
      have hinb := (Fields.value?_eq_some_iff hb.1).mp hfound'
      exact .some ⟨hkey, ha.2 _ hina, hb.2 _ hinb⟩

lemma of_shape {a b : Json} (h : SameShape a b) : Same a b := by
  cases h with
  | null => exact ⟨rfl, rfl, rfl⟩
  | bool | string =>
    refine ⟨?_, rfl, rfl⟩
    simp [Json.deepEqual]
  | number h =>
    refine ⟨?_, rfl, rfl⟩
    simpa [Json.deepEqual, Double.numericEq] using h
  | array h =>
    have hitems := h.imp fun _ _ hab => hab.deepEqual
    refine ⟨?_, distinctKeys_array.mpr ?_, distinctKeys_array.mpr ?_⟩
    · rwa [Json.deepEqual, deepEqualItems_iff]
    · intro item hitem
      obtain ⟨other, -, hsame⟩ := (Paired.of_forall₂ h).1 item hitem
      exact hsame.left
    · intro item hitem
      obtain ⟨other, -, hsame⟩ := (Paired.of_forall₂ h).2 item hitem
      exact hsame.right
  | @object as bs has hbs h =>
    refine ⟨(deepEqual_object has hbs).mpr fun key => ?_,
      distinctKeys_object.mpr ⟨has, fun field hfield => ?_⟩,
      distinctKeys_object.mpr ⟨hbs, fun field hfield => ?_⟩⟩
    · have hkey := h key
      generalize Fields.value? as key = v, Fields.value? bs key = w at hkey
      cases hkey with
      | none => rfl
      | some hab => exact hab.deepEqual
    · have hkey := h field.1
      rw [(Fields.value?_eq_some_iff has).mpr hfield] at hkey
      generalize Fields.value? bs field.1 = w at hkey
      cases hkey with
      | some hab => exact hab.left
    · have hkey := h field.1
      rw [(Fields.value?_eq_some_iff hbs).mpr hfield] at hkey
      generalize Fields.value? as field.1 = v at hkey
      cases hkey with
      | some hab => exact hab.right

/-- The fields of objects that are the same are the same, in whatever order. -/
lemma paired {as bs : List (String × Json)} (h : Same (.object as) (.object bs)) :
    Paired (fun a b => a.1 = b.1 ∧ Same a.2 b.2) as bs := by
  cases h.shape with
  | object has hbs hfields =>
    constructor
    · rintro ⟨key, a⟩ ha
      have hkey := hfields key
      rw [(Fields.value?_eq_some_iff has).mpr ha] at hkey
      generalize hb : Fields.value? bs key = found at hkey
      cases hkey with
      | some hab => exact ⟨_, (Fields.value?_eq_some_iff hbs).mp hb, rfl, hab⟩
    · rintro ⟨key, b⟩ hb
      have hkey := hfields key
      rw [(Fields.value?_eq_some_iff hbs).mpr hb] at hkey
      generalize ha : Fields.value? as key = found at hkey
      cases hkey with
      | some hab => exact ⟨_, (Fields.value?_eq_some_iff has).mp ha, rfl, hab⟩

lemma kind_eq {a b : Json} (h : Same a b) : a.kind = b.kind := by
  cases h.shape <;> rfl

/-! ### What the same values have in common -/

/-- Equality with the value does not tell apart what is the same. -/
def Congruent (a : Json) : Prop :=
  ∀ {a' b b' : Json}, Same a a' → Same b b' → a.deepEqual b = a'.deepEqual b'

lemma deepEqualItems_eq {as as' bs bs' : List Json} (has : List.Forall₂ Same as as')
    (hbs : List.Forall₂ Same bs bs') (h : ∀ a ∈ as, Congruent a) :
    deepEqualItems as bs = deepEqualItems as' bs' := by
  induction has generalizing bs bs' with
  | nil => cases hbs <;> rfl
  | cons ha _ ih =>
    rw [List.forall_mem_cons] at h
    cases hbs with
    | nil => rfl
    | cons hb hbs => rw [deepEqualItems, deepEqualItems, h.1 ha hb, ih hbs h.2]

lemma optionalEqual_eq_of {v v' w w' : Option Json} (hv : Option.Rel Same v v')
    (hw : Option.Rel Same w w') (h : ∀ a, v = some a → Congruent a) :
    optionalEqual v w = optionalEqual v' w' := by
  cases hv with
  | none => cases hw <;> rfl
  | some ha =>
    cases hw with
    | none => rfl
    | some hb => exact h _ rfl ha hb

/-- Equality does not tell values apart that are the same. -/
theorem deepEqual_eq {a a' b b' : Json} (ha : Same a a') (hb : Same b b') :
    a.deepEqual b = a'.deepEqual b' := by
  suffices h : Congruent a from h ha hb
  clear ha hb
  induction a using Json.induction with
  | null | bool | string =>
    intro a' b b' ha hb
    cases ha.shape
    cases hb.shape <;> rfl
  | number m =>
    intro a' b b' ha hb
    cases ha.shape with
    | number hm =>
      cases hb.shape with
      | number hn => simp only [Json.deepEqual, Double.numericEq, hm, hn]
      | _ => rfl
  | array as ih =>
    intro a' b b' ha hb
    cases ha.shape with
    | array has =>
      cases hb.shape with
      | array hbs => exact deepEqualItems_eq has hbs ih
      | _ => rfl
  | object as ih =>
    intro a' b b' ha hb
    cases ha.shape with
    | object has has' has_eq =>
      cases hb.shape with
      | object hbs hbs' hbs_eq =>
        rw [Bool.eq_iff_iff, deepEqual_object has hbs, deepEqual_object has' hbs']
        refine forall_congr' fun key => ?_
        rw [optionalEqual_eq_of (has_eq key) (hbs_eq key)]
        intro a ha
        exact ih _ ((Fields.value?_eq_some_iff has).mp ha)
      | _ => rfl

lemma optionalEqual_eq {v v' w w' : Option Json} (hv : Option.Rel Same v v')
    (hw : Option.Rel Same w w') : optionalEqual v w = optionalEqual v' w' :=
  optionalEqual_eq_of hv hw fun _ _ => deepEqual_eq

/-! ### Equality as a relation -/

/-- A value that repeats no key is the same as itself. -/
lemma refl {a : Json} (ha : a.distinctKeys = true) : Same a a := by
  refine ⟨?_, ha, ha⟩
  induction a using Json.induction with
  | null => rfl
  | bool | string => simp [Json.deepEqual]
  | number m => simp [Json.deepEqual, Double.numericEq]
  | array items ih =>
    rw [distinctKeys_array] at ha
    rw [Json.deepEqual, deepEqualItems_iff, List.forall₂_same]
    exact fun item hitem => ih item hitem (ha item hitem)
  | object fields ih =>
    rw [distinctKeys_object] at ha
    rw [deepEqual_object ha.1 ha.1]
    intro key
    cases hvalue : Fields.value? fields key with
    | none => rfl
    | some value =>
      have hfield := (Fields.value?_eq_some_iff ha.1).mp hvalue
      exact ih _ hfield (ha.2 _ hfield)

lemma symm {a b : Json} (h : Same a b) : Same b a :=
  ⟨(deepEqual_eq h (refl h.left)).symm.trans (refl h.left).deepEqual, h.right, h.left⟩

lemma trans {a b c : Json} (h : Same a b) (h' : Same b c) : Same a c :=
  ⟨(deepEqual_eq h (refl h'.right)).trans h'.deepEqual, h.left, h'.right⟩

/-- The order of the fields does not count. -/
lemma of_perm {fields fields' : List (String × Json)} (h : fields.Perm fields')
    (hfields : (Json.object fields).distinctKeys = true) :
    Same (.object fields) (.object fields') := by
  have hkeys := (distinctKeys_object.mp hfields).1
  have hkeys' : (Fields.keys fields').Nodup := ((h.map Prod.fst).nodup_iff).mp hkeys
  refine ⟨?_, hfields, distinctKeys_object.mpr ⟨hkeys', fun field hfield => ?_⟩⟩
  · rw [deepEqual_object hkeys hkeys']
    intro key
    rw [Fields.value?_of_perm h hkeys]
    exact (deepEqual_object hkeys hkeys).mp (refl hfields).deepEqual key
  · exact (distinctKeys_object.mp hfields).2 field (h.mem_iff.mpr hfield)

lemma compare?_eq {a a' b b' : Json} (ha : Same a a') (hb : Same b b') :
    a.compare? b = a'.compare? b' := by
  cases ha.shape with
  | number hm =>
    cases hb.shape with
    | number hn => simp only [compare?, Double.compare, hm, hn]
    | _ => rfl
  | _ => cases hb.shape <;> rfl

lemma string?_eq {a b : Json} (h : Same a b) : a.string? = b.string? := by
  cases h.shape <;> rfl

lemma truthy_eq {a b : Json} (h : Same a b) : truthy (some a) = truthy (some b) := by
  cases h.shape with
  | number hunits => simp only [truthy, hunits]
  | _ => rfl

lemma typeName_eq {v w : Option Json} (h : Option.Rel Same v w) : typeName v = typeName w := by
  cases h with
  | none => rfl
  | some h => rw [typeName, typeName, h.kind_eq]

/-! ### What a path leads to -/

lemma rel_bind {α β γ δ : Type} {R : α → β → Prop} {S : γ → δ → Prop} {v : Option α}
    {w : Option β} {f : α → Option γ} {g : β → Option δ} (h : Option.Rel R v w)
    (hfg : ∀ {a b}, R a b → Option.Rel S (f a) (g b)) : Option.Rel S (v.bind f) (w.bind g) := by
  cases h with
  | none => exact .none
  | some h => exact hfg h

lemma rel_getElem? {α β : Type} {R : α → β → Prop} {xs : List α} {ys : List β}
    (h : List.Forall₂ R xs ys) (position : Nat) : Option.Rel R xs[position]? ys[position]? := by
  induction h generalizing position with
  | nil => exact .none
  | cons hxy _ ih =>
    cases position with
    | zero => exact .some hxy
    | succ position => exact ih position

/-- The same segments lead to the same value, or nowhere. -/
lemma getAt_rel {a b : Json} (h : Same a b) (segments : List String) :
    Option.Rel Same (getAt a segments) (getAt b segments) := by
  induction segments generalizing a b with
  | nil =>
    rw [getAt, getAt]
    exact .some h
  | cons segment rest ih =>
    cases h.shape with
    | null | bool | number | string => exact .none
    | array hitems =>
      rw [getAt, getAt, item?, item?]
      cases Text.natural? segment with
      | none => exact .none
      | some position => exact rel_bind (rel_getElem? hitems position) ih
    | object _ _ hfields =>
      rw [getAt, getAt]
      exact rel_bind (hfields segment) ih

lemma get?_rel {a b : Json} (h : Same a b) (path : String) :
    Option.Rel Same (a.get? path) (b.get? path) :=
  h.getAt_rel (segments path)

end Same

/-! ### Equality is an equivalence -/

/-- Equality of values that repeat no key is an equivalence, and the order of the fields of objects
does not count. -/
theorem deepEqual_equivalence {a b c : Json} (ha : a.distinctKeys = true)
    (hb : b.distinctKeys = true) (hc : c.distinctKeys = true) :
    a.deepEqual a = true ∧ a.deepEqual b = b.deepEqual a ∧
      (a.deepEqual b = true → b.deepEqual c = true → a.deepEqual c = true) ∧
      ∀ fields fields', a = .object fields → fields.Perm fields' →
        (Json.object fields').deepEqual b = a.deepEqual b ∧
          b.deepEqual (.object fields') = b.deepEqual a := by
  refine ⟨(Same.refl ha).deepEqual, ?symm, fun hab hbc => ?trans, ?perm⟩
  case symm =>
    rw [Bool.eq_iff_iff]
    exact ⟨fun h => (Same.symm ⟨h, ha, hb⟩).deepEqual, fun h => (Same.symm ⟨h, hb, ha⟩).deepEqual⟩
  case trans => exact (Same.trans ⟨hab, ha, hb⟩ ⟨hbc, hb, hc⟩).deepEqual
  case perm =>
    rintro fields fields' rfl hperm
    have hsame := (Same.of_perm hperm ha).symm
    exact ⟨Same.deepEqual_eq hsame (.refl hb), Same.deepEqual_eq (.refl hb) hsame⟩

/-- Three objects with their fields in different orders and their numbers spelled as integers or as
floats. -/
theorem deepEqual_spellings :
    let a := Json.object [("n", .int 1), ("items", .array [.null, .int 20])]
    let b := Json.object [("items", .array [.null, .int 20]), ("n", .number (.float (.ofInt 1)))]
    let c := Json.object [("n", .int 1), ("items", .array [.null, .number (.float (.ofInt 20))])]
    a.deepEqual b = true ∧ b.deepEqual c = true ∧ a.deepEqual c = true ∧ b.deepEqual a = true := by
  intro a b c
  have hab : a.deepEqual b = true := by decide +kernel
  have hbc : b.deepEqual c = true := by decide +kernel
  obtain ⟨-, hsymm, htrans, -⟩ :=
    @deepEqual_equivalence a b c (by decide +kernel) (by decide +kernel) (by decide +kernel)
  exact ⟨hab, hbc, htrans hab hbc, hsymm.symm.trans hab⟩

end Json

end DocumentDb
