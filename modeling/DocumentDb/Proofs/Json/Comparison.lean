import DocumentDb.Proofs.Json.Equality
import DocumentDb.Proofs.Json.Order
import DocumentDb.Proofs.Number.Rounding

/-!
# The comparisons agree

There are three comparisons of values: the order in which views sort, equality, and the order of the
selector operators. The first goes through the fields of objects in the order of their keys, the
second looks up each key of one object in the other, and the third knows scalars only. They never
contradict each other, as long as no number is the float `-0.0`, which sorts below `0` but equals
it.
-/

namespace DocumentDb

/-! ### Fields in the order of their keys -/

namespace Fields

variable {α β : Type} {R : α → β → Prop}

/-- Fields with the same keys in the same places are related one by one where the values under each
key are. -/
lemma forall₂_iff {as : Fields α} {bs : Fields β} (has : (keys as).Nodup)
    (hbs : (keys bs).Nodup) :
    List.Forall₂ (fun a b => a.1 = b.1 ∧ R a.2 b.2) as bs ↔
      keys as = keys bs ∧ ∀ key, Option.Rel R (value? as key) (value? bs key) := by
  constructor
  · intro h
    clear has hbs
    induction h with
    | nil => exact ⟨rfl, fun _ => .none⟩
    | cons hab _ ih =>
      obtain ⟨hkey, hvalue⟩ := hab
      refine ⟨by rw [keys_cons, keys_cons, hkey, ih.1], fun key => ?_⟩
      rw [value?_cons, value?_cons, hkey]
      split
      · exact .some hvalue
      · exact ih.2 key
  · rintro ⟨hkeys, hvalues⟩
    induction as generalizing bs with
    | nil =>
      cases bs with
      | nil => exact .nil
      | cons => cases hkeys
    | cons a as ih =>
      cases bs with
      | nil => cases hkeys
      | cons b bs =>
        obtain ⟨hkey, hrest⟩ := List.cons.inj hkeys
        rw [keys_cons, List.nodup_cons] at has hbs
        refine .cons ⟨hkey, ?_⟩ (ih has.2 hbs.2 hrest fun key => ?_)
        · have hfirst := hvalues a.1
          rw [value?_cons, value?_cons, if_pos rfl, if_pos hkey] at hfirst
          cases hfirst with
          | some hvalue => exact hvalue
        · by_cases hother : key = a.1
          · have hmissing {γ : Type} {fields : Fields γ} (h : key ∉ keys fields) :
                value? fields key = none := by
              rwa [← isSome_value?_iff, Bool.not_eq_true, Option.isSome_eq_false_iff,
                Option.isNone_iff_eq_none] at h
            rw [hmissing (hother ▸ has.1), hmissing (hother ▸ hkey ▸ hbs.1)]
            exact .none
          · have hvalue := hvalues key
            rwa [value?_cons, value?_cons, if_neg hother, if_neg (hkey ▸ hother)] at hvalue

/-- The fields in the order of their keys. -/
def sorted (fields : Fields α) : Fields α := fields.mergeSort fun a b => a.1 ≤ b.1

lemma sorted_perm (fields : Fields α) : (sorted fields).Perm fields := List.mergeSort_perm _ _

lemma pairwise_keys_sorted (fields : Fields α) : (keys (sorted fields)).Pairwise (· ≤ ·) := by
  rw [keys, List.pairwise_map]
  have h := @List.pairwise_mergeSort _ (fun a b : String × α => decide (a.1 ≤ b.1))
    (fun a b c => by simpa using String.le_trans) (fun a b => by simpa using String.le_total _ _)
    fields
  simp only [decide_eq_true_eq] at h
  exact h

/-- Sorted by key, fields are related one by one where the values under each key are. -/
lemma forall₂_sorted_iff {as : Fields α} {bs : Fields β} (has : (keys as).Nodup)
    (hbs : (keys bs).Nodup) :
    List.Forall₂ (fun a b => a.1 = b.1 ∧ R a.2 b.2) (sorted as) (sorted bs) ↔
      ∀ key, Option.Rel R (value? as key) (value? bs key) := by
  have hasorted := (sorted_perm as).symm
  have hbsorted := (sorted_perm bs).symm
  rw [forall₂_iff ((hasorted.map Prod.fst).nodup_iff.mp has)
    ((hbsorted.map Prod.fst).nodup_iff.mp hbs)]
  simp only [value?_of_perm hasorted has, value?_of_perm hbsorted hbs, and_iff_right_iff_imp]
  intro hvalues
  -- the same keys, sorted on both sides
  have hkeys : (keys as).Perm (keys bs) := by
    rw [List.perm_ext_iff_of_nodup has hbs]
    intro key
    have hvalue := hvalues key
    rw [← isSome_value?_iff, ← isSome_value?_iff]
    generalize value? as key = v, value? bs key = w at hvalue
    cases hvalue <;> simp
  refine List.Perm.eq_of_pairwise (fun _ _ _ _ => String.le_antisymm) (pairwise_keys_sorted as)
    (pairwise_keys_sorted bs) ?_
  exact ((hasorted.map Prod.fst).symm.trans hkeys).trans (hbsorted.map Prod.fst)

end Fields

/-! ### Numbers -/

namespace Double

/-- Where no zero is negative, the sign is that of the value. -/
lemma negative_eq {x : Double} (hx : x.units = 0 → x.negative = false) :
    x.negative = decide (x.units < 0) := by
  by_cases hnegative : x.negative = true
  · have hunits : x.units = -x.magnitude := by rw [units, if_pos hnegative]
    have hne : x.units ≠ 0 := by
      intro h
      rw [hx h] at hnegative
      cases hnegative
    rw [hnegative, eq_comm, decide_eq_true_iff]
    omega
  · have hunits : x.units = x.magnitude := by rw [units, if_neg hnegative]
    rw [Bool.not_eq_true] at hnegative
    rw [hnegative, eq_comm, decide_eq_false_iff_not]
    omega

/-- The total order is the numeric one where no zero is negative. -/
lemma totalCompare_eq_compare {x y : Double} (hx : x.units = 0 → x.negative = false)
    (hy : y.units = 0 → y.negative = false) : x.totalCompare y = x.compare y := by
  rw [totalCompare, compare, negative_eq hx, negative_eq hy]
  cases hunits : Ord.compare x.units y.units with
  | eq =>
    rw [Std.compare_eq_iff_eq.mp hunits]
    exact Std.ReflOrd.compare_self
  | lt | gt => rfl

end Double

namespace Number

/-- The zero that is a float and negative. -/
def negativeZero : Number := .float (.zero true)

/-- Of all numbers only the float `-0.0` is a negative zero. -/
lemma negative_eq_false {n : Number} (hn : n ≠ negativeZero) (hunits : n.toDouble.units = 0) :
    n.toDouble.negative = false := by
  cases n with
  | int value hrange =>
    obtain ⟨hvalue, hnegative⟩ := Double.units_ofInt (n := value) (by omega)
    rw [toDouble, hvalue] at hunits
    rw [toDouble, hnegative, decide_eq_false_iff_not, ← Double.nearest_neg_iff]
    have hone : (Double.one : Int) ≠ 0 := by decide
    rw [(Int.mul_eq_zero.mp hunits).resolve_right hone]
    decide
  | float x =>
    by_contra hnegative
    rw [Bool.not_eq_false] at hnegative
    apply hn
    obtain ⟨negative, mantissa, exponent, _, _, hnormal⟩ := x
    simp only [toDouble] at hunits hnegative
    subst hnegative
    rw [Double.units, if_pos rfl, Double.magnitude, Nat.shiftLeft_eq, Int.neg_eq_zero,
      Int.natCast_eq_zero, Nat.mul_eq_zero] at hunits
    obtain rfl : mantissa = 0 := hunits.resolve_right (Nat.ne_of_gt (Nat.two_pow_pos exponent))
    obtain rfl : exponent = 0 := hnormal.resolve_right (by decide)
    rfl

end Number

namespace Json

mutual

/-- The numbers in a value, at any depth. -/
def numbers : Json → List Number
  | .number n => [n]
  | .array items => numbersOfItems items
  | .object fields => numbersOfFields fields
  | _ => []

@[inherit_doc numbers]
def numbersOfItems : List Json → List Number
  | [] => []
  | item :: items => numbers item ++ numbersOfItems items

@[inherit_doc numbers]
def numbersOfFields : List (String × Json) → List Number
  | [] => []
  | (_, value) :: fields => numbers value ++ numbersOfFields fields

end

lemma numbers_array (items : List Json) : (Json.array items).numbers = items.flatMap numbers := by
  rw [numbers]
  induction items with
  | nil => rfl
  | cons item items ih => rw [numbersOfItems, ih, List.flatMap_cons]

lemma numbers_object (fields : List (String × Json)) :
    (Json.object fields).numbers = fields.flatMap fun field => field.2.numbers := by
  rw [numbers]
  induction fields with
  | nil => rfl
  | cons field fields ih => rw [numbersOfFields, ih, List.flatMap_cons]

/-! ### Values that collate equal -/

lemma sortFieldsItems_eq_map (items : List Json) :
    sortFieldsItems items = items.map sortFields := by
  induction items with
  | nil => rfl
  | cons item items ih => rw [sortFieldsItems, ih, List.map_cons]

lemma sortFieldsMembers_eq_map (fields : List (String × Json)) :
    sortFieldsMembers fields = fields.map fun field => (field.1, field.2.sortFields) := by
  induction fields with
  | nil => rfl
  | cons field fields ih => rw [sortFieldsMembers, ih, List.map_cons]

lemma collateItems_eq_iff {as bs : List Json} :
    collateItems as bs = .eq ↔ List.Forall₂ (fun a b => collateSorted a b = .eq) as bs := by
  induction as generalizing bs with
  | nil => cases bs <;> simp [collateItems]
  | cons a as ih => cases bs <;> simp [collateItems, Ordering.then_eq_eq, ih]

lemma collateFields_eq_iff {as bs : List (String × Json)} :
    collateFields as bs = .eq ↔
      List.Forall₂ (fun a b => a.1 = b.1 ∧ collateSorted a.2 b.2 = .eq) as bs := by
  induction as generalizing bs with
  | nil => cases bs <;> simp [collateFields]
  | cons a as ih => cases bs <;> simp [collateFields, Ordering.then_eq_eq, ih]

/-- Arrays collate equal where their items do. -/
lemma collate_array_iff {as bs : List Json} :
    collate (.array as) (.array bs) = .eq ↔
      List.Forall₂ (fun a b => collate a b = .eq) as bs := by
  rw [collate, sortFields, sortFields, collateSorted, collateItems_eq_iff, sortFieldsItems_eq_map,
    sortFieldsItems_eq_map, List.forall₂_map_left_iff, List.forall₂_map_right_iff]
  rfl

/-- Objects collate equal where the values under each key do. -/
lemma collate_object_iff {as bs : List (String × Json)} (has : (Fields.keys as).Nodup)
    (hbs : (Fields.keys bs).Nodup) :
    collate (.object as) (.object bs) = .eq ↔
      ∀ key, Option.Rel (fun a b => collate a b = .eq) (Fields.value? as key)
        (Fields.value? bs key) := by
  have hsorted (fields : List (String × Json)) : sortFields (.object fields) =
      .object ((Fields.sorted fields).map fun field => (field.1, field.2.sortFields)) := by
    rw [sortFields, sortFieldsMembers_eq_map, Fields.sorted,
      List.map_mergeSort]
    exact fun _ _ _ _ => rfl
  rw [← Fields.forall₂_sorted_iff has hbs, collate, hsorted, hsorted, collateSorted,
    collateFields_eq_iff, List.forall₂_map_left_iff, List.forall₂_map_right_iff]
  rfl

/-- Values of different kinds are neither equal nor do they collate equal. -/
lemma collate_eq_iff_of_kind_ne {a b : Json} (h : a.kind ≠ b.kind) :
    collate a b = .eq ↔ a.deepEqual b = true := by
  have hrank : a.kind.rank ≠ b.kind.rank := by
    intro hrank
    apply h
    revert hrank
    cases a.kind <;> cases b.kind <;> simp [Kind.rank]
  have hkind (value : Json) : value.sortFields.kind = value.kind := by
    cases value <;> rfl
  refine iff_of_false ?_ ?_
  · rw [collate, collateSorted_eq_then, Ordering.then_eq_eq, hkind, hkind, Std.compare_eq_iff_eq]
    exact fun hequal => hrank hequal.1
  · intro hequal
    apply h
    revert hequal
    cases a <;> cases b <;> simp [deepEqual, kind]

lemma optionalEqual_iff {v w : Option Json} :
    optionalEqual v w = true ↔ Option.Rel (fun a b => a.deepEqual b = true) v w := by
  cases v <;> cases w <;> simp [optionalEqual]

lemma collate_number {m n : Number} (hm : m ≠ Number.negativeZero)
    (hn : n ≠ Number.negativeZero) :
    collate (.number m) (.number n) = m.toDouble.compare n.toDouble :=
  Double.totalCompare_eq_compare (Number.negative_eq_false hm) (Number.negative_eq_false hn)

/-- Values collate equal where they are equal. -/
lemma collate_eq_iff {a b : Json} (ha : a.distinctKeys = true) (hb : b.distinctKeys = true)
    (hza : ∀ n ∈ a.numbers, n ≠ Number.negativeZero)
    (hzb : ∀ n ∈ b.numbers, n ≠ Number.negativeZero) :
    collate a b = .eq ↔ a.deepEqual b = true := by
  induction a using Json.induction generalizing b with
  | null =>
    cases b with
    | null => exact iff_of_true rfl rfl
    | _ => exact collate_eq_iff_of_kind_ne (by simp [kind])
  | bool p =>
    cases b with
    | bool q => simp [collate, sortFields, collateSorted, deepEqual]
    | _ => exact collate_eq_iff_of_kind_ne (by simp [kind])
  | number m =>
    cases b with
    | number n =>
      rw [collate_number (hza m List.mem_cons_self) (hzb n List.mem_cons_self), Double.compare,
        Std.compare_eq_iff_eq, deepEqual, Double.numericEq, beq_iff_eq]
    | _ => exact collate_eq_iff_of_kind_ne (by simp [kind])
  | string s =>
    cases b with
    | string t => simp [collate, sortFields, collateSorted, deepEqual]
    | _ => exact collate_eq_iff_of_kind_ne (by simp [kind])
  | array as ih =>
    cases b with
    | array bs =>
      rw [distinctKeys_array] at ha hb
      rw [numbers_array, List.forall_mem_flatMap] at hza hzb
      rw [collate_array_iff, deepEqual, deepEqualItems_iff, List.forall₂_iff_zip,
        List.forall₂_iff_zip]
      refine and_congr_right fun _ => forall_congr' fun a => forall_congr' fun b => ?_
      refine imp_congr_right fun hzip => ?_
      obtain ⟨hina, hinb⟩ := List.of_mem_zip hzip
      exact ih a hina (ha a hina) (hb b hinb) (hza a hina) (hzb b hinb)
    | _ => exact collate_eq_iff_of_kind_ne (by simp [kind])
  | object as ih =>
    cases b with
    | object bs =>
      rw [distinctKeys_object] at ha hb
      rw [numbers_object, List.forall_mem_flatMap] at hza hzb
      rw [collate_object_iff ha.1 hb.1, deepEqual_object ha.1 hb.1]
      refine forall_congr' fun key => ?_
      rw [optionalEqual_iff]
      cases hfounda : Fields.value? as key with
      | none => cases Fields.value? bs key <;> simp
      | some a =>
        cases hfoundb : Fields.value? bs key with
        | none => simp
        | some b =>
          have hina := (Fields.value?_eq_some_iff ha.1).mp hfounda
          have hinb := (Fields.value?_eq_some_iff hb.1).mp hfoundb
          rw [Option.rel_some_some, Option.rel_some_some]
          exact ih _ hina (ha.2 _ hina) (hb.2 _ hinb) (hza _ hina) (hzb _ hinb)
    | _ => exact collate_eq_iff_of_kind_ne (by simp [kind])

/-! ### The comparisons agree -/

/-- Of values that repeat no key and hold no float `-0.0`, those that collate equal are the equal
ones, and comparable ones collate as they compare. -/
theorem comparisons_agree {a b : Json} (ha : a.distinctKeys = true) (hb : b.distinctKeys = true)
    (hza : ∀ n ∈ a.numbers, n ≠ Number.negativeZero)
    (hzb : ∀ n ∈ b.numbers, n ≠ Number.negativeZero) :
    (collate a b = .eq ↔ a.deepEqual b = true) ∧
      ∀ order, a.compare? b = some order → collate a b = order := by
  refine ⟨collate_eq_iff ha hb hza hzb, fun order horder => ?_⟩
  cases a <;> cases b <;> try cases horder
  case number.number m n =>
    exact collate_number (hza m List.mem_cons_self) (hzb n List.mem_cons_self)
  case string.string s t => rfl
  case bool.bool p q => rfl

/-- Two objects with their fields in different orders and a number spelled in two ways, and two
numbers in them that are in order. -/
theorem comparisons_agree_respelled :
    let one : Json := .number (.float (.ofInt 1))
    let a : Json := .object [("n", .int 1), ("items", .array [.null, .int 20])]
    let b : Json := .object [("items", .array [.null, .int 20]), ("n", one)]
    collate a b = .eq ∧ a.deepEqual b = true ∧ one.compare? (.int 20) = some .lt ∧
      collate one (.int 20) = .lt := by
  intro one a b
  have hab : a.deepEqual b = true := by decide +kernel
  have hlt : one.compare? (.int 20) = some .lt := by decide +kernel
  obtain ⟨hequal, -⟩ := @comparisons_agree a b (by decide) (by decide) (by decide +kernel)
    (by decide +kernel)
  obtain ⟨-, horder⟩ := @comparisons_agree one (.int 20) rfl rfl (by decide +kernel)
    (by decide +kernel)
  exact ⟨hequal.mpr hab, hab, hlt, horder .lt hlt⟩

end Json

end DocumentDb
