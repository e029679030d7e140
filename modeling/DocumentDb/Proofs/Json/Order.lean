import DocumentDb.Json.Order
import Mathlib.Data.List.Pairwise
import Mathlib.Data.List.Perm.Basic
import Mathlib.Tactic.Common

/-!
# Collation is an order, and sorting by it is stable

Collation is a total preorder of all values: `collate` turns round with its arguments and is
transitive. So sorting by the collation of keys does what it says: the sorted list has the same
items, their keys never decrease (or never increase), and items with equal keys stay in order.
-/

namespace DocumentDb

/-! ### Orders of three things -/

/-- How `a` stands to `b`, how `b` stands to `c` and how `a` stands to `c` fit together. -/
def Consistent (first second both : Ordering) : Prop :=
  (first = .eq → both = second) ∧ (second = .eq → both = first) ∧
    (first = .lt → second = .lt → both = .lt) ∧ (first = .gt → second = .gt → both = .gt)

namespace Consistent

lemma of_transOrd {α : Type} [Ord α] [Std.TransOrd α] (a b c : α) :
    Consistent (compare a b) (compare b c) (compare a c) :=
  ⟨Std.TransCmp.congr_left, fun h => (Std.TransCmp.congr_right h).symm, Std.TransCmp.lt_trans,
    Std.TransCmp.gt_trans⟩

/-- Lexicographic orders fit together where their parts do; the later part counts only where the
earlier one finds no difference. -/
lemma «then» {first second both first' second' both' : Ordering}
    (h : Consistent first second both)
    (h' : first = .eq → second = .eq → Consistent first' second' both') :
    Consistent (first.then first') (second.then second') (both.then both') := by
  cases first <;> cases second <;> cases both <;> simp_all [Consistent]

lemma swap {first second both : Ordering} (h : Consistent first second both) :
    Consistent first.swap second.swap both.swap := by
  cases first <;> cases second <;> cases both <;> simp_all [Consistent]

lemma isLE_trans {first second both : Ordering} (h : Consistent first second both)
    (hfirst : first.isLE = true) (hsecond : second.isLE = true) : both.isLE = true := by
  cases first <;> cases second <;> cases both <;> simp_all [Consistent]

end Consistent

lemma compare_eq_swap {α : Type} [Ord α] [Std.OrientedOrd α] (a b : α) :
    compare a b = (compare b a).swap :=
  Std.OrientedCmp.eq_swap

lemma Double.totalCompare_swap (x y : Double) :
    x.totalCompare y = (y.totalCompare x).swap := by
  simp only [totalCompare, Ordering.swap_then]
  rw [compare_eq_swap x.units, compare_eq_swap y.negative]

lemma Double.totalCompare_consistent (x y z : Double) :
    Consistent (x.totalCompare y) (y.totalCompare z) (x.totalCompare z) := by
  refine (Consistent.of_transOrd x.units y.units z.units).then fun _ _ => ?_
  have h := (Consistent.of_transOrd x.negative y.negative z.negative).swap
  simpa only [← compare_eq_swap] using h

namespace Json

/-! ### Collation -/

/-- Values of different kinds are in the order of their kinds. -/
lemma collateSorted_eq_then (a b : Json) :
    collateSorted a b = (compare a.kind.rank b.kind.rank).then (collateSorted a b) := by
  cases a <;> cases b <;> rfl

mutual

lemma collateSorted_swap (a b : Json) : collateSorted a b = (collateSorted b a).swap := by
  match a with
  | .null => cases b <;> rfl
  | .bool a => cases b with
    | bool b => exact compare_eq_swap a b
    | _ => rfl
  | .number a => cases b with
    | number b => exact Double.totalCompare_swap a.toDouble b.toDouble
    | _ => rfl
  | .string a => cases b with
    | string b => exact compare_eq_swap a b
    | _ => rfl
  | .array as => cases b with
    | array bs => exact collateItems_swap as bs
    | _ => rfl
  | .object as => cases b with
    | object bs => exact collateFields_swap as bs
    | _ => rfl

lemma collateItems_swap (as bs : List Json) : collateItems as bs = (collateItems bs as).swap := by
  match as, bs with
  | [], [] | [], _ :: _ | _ :: _, [] => rfl
  | a :: as, b :: bs =>
    rw [collateItems, collateItems, Ordering.swap_then, collateSorted_swap a b,
      collateItems_swap as bs]

lemma collateFields_swap (as bs : List (String × Json)) :
    collateFields as bs = (collateFields bs as).swap := by
  match as, bs with
  | [], [] | [], _ :: _ | _ :: _, [] => rfl
  | (j, a) :: as, (k, b) :: bs =>
    rw [collateFields, collateFields, Ordering.swap_then, Ordering.swap_then,
      collateSorted_swap a b, collateFields_swap as bs, compare_eq_swap j k]

end

mutual

lemma collateSorted_consistent (a b c : Json) :
    Consistent (collateSorted a b) (collateSorted b c) (collateSorted a c) := by
  rw [collateSorted_eq_then a b, collateSorted_eq_then b c, collateSorted_eq_then a c]
  refine (Consistent.of_transOrd a.kind.rank b.kind.rank c.kind.rank).then fun hab hbc => ?_
  match a with
  | .null => cases b <;> cases hab; cases c <;> cases hbc; exact Consistent.of_transOrd 0 0 0
  | .bool a =>
    cases b <;> cases hab; cases c <;> cases hbc
    exact Consistent.of_transOrd (α := Bool) a _ _
  | .number a =>
    cases b <;> cases hab; cases c <;> cases hbc
    exact Double.totalCompare_consistent a.toDouble _ _
  | .string a =>
    cases b <;> cases hab; cases c <;> cases hbc
    exact Consistent.of_transOrd (α := String) a _ _
  | .array as => cases b <;> cases hab; cases c <;> cases hbc; exact collateItems_consistent as _ _
  | .object as =>
    cases b <;> cases hab; cases c <;> cases hbc
    exact collateFields_consistent as _ _

lemma collateItems_consistent (as bs cs : List Json) :
    Consistent (collateItems as bs) (collateItems bs cs) (collateItems as cs) := by
  match as, bs, cs with
  | a :: as, b :: bs, c :: cs =>
    exact (collateSorted_consistent a b c).then fun _ _ => collateItems_consistent as bs cs
  | [], [], _ | [], _ :: _, [] | [], _ :: _, _ :: _ | _ :: _, [], [] | _ :: _, [], _ :: _
  | _ :: _, _ :: _, [] => simp [Consistent, collateItems]

lemma collateFields_consistent (as bs cs : List (String × Json)) :
    Consistent (collateFields as bs) (collateFields bs cs) (collateFields as cs) := by
  match as, bs, cs with
  | (i, a) :: as, (j, b) :: bs, (k, c) :: cs =>
    exact ((Consistent.of_transOrd i j k).then fun _ _ => collateSorted_consistent a b c).then
      fun _ _ => collateFields_consistent as bs cs
  | [], [], _ | [], _ :: _, [] | [], _ :: _, _ :: _ | _ :: _, [], [] | _ :: _, [], _ :: _
  | _ :: _, _ :: _, [] => simp [Consistent, collateFields]

end

/-- Collation is a total preorder. -/
instance : Std.TransCmp collate where
  eq_swap {a b} := collateSorted_swap a.sortFields b.sortFields
  isLE_trans {a b c} := (collateSorted_consistent a.sortFields b.sortFields c.sortFields).isLE_trans

/-- Every value collates equal to itself, collation turns round with its arguments, it is transitive
and strictly so where one of two steps is strict, and values that collate equal stand alike to every
other. -/
theorem collate_total_preorder (a b c : Json) :
    collate a a = .eq ∧ collate b a = (collate a b).swap ∧
      (collate a b ≠ .gt → collate b c ≠ .gt →
        collate a c ≠ .gt ∧ (collate a b = .lt ∨ collate b c = .lt → collate a c = .lt)) ∧
      (collate a b = .eq → collate a c = collate b c) := by
  refine ⟨Std.ReflCmp.compare_self, Std.OrientedCmp.eq_swap, fun hab hbc => ⟨?weak, ?strict⟩,
    Std.TransCmp.congr_left⟩
  all_goals simp only [ne_eq, Ordering.ne_gt_iff_isLE] at hab hbc ⊢
  case weak => exact Std.TransCmp.isLE_trans hab hbc
  case strict =>
    rintro (hlt | hlt)
    · exact Std.TransCmp.lt_of_lt_of_isLE hlt hbc
    · exact Std.TransCmp.lt_of_isLE_of_lt hab hlt

end Json

/-! ### Stable sorting -/

section Sorting

variable {α : Type} {cmp : α → α → Ordering} {items sorted : List α}

/-- A list sorted stably: the items are the same, none comes before a smaller one, and those that
compare equal are in the order in which they were. -/
structure StablySorted (cmp : α → α → Ordering) (items sorted : List α) : Prop where
  perm : sorted.Perm items
  ordered : sorted.Pairwise fun a b => cmp a b ≠ .gt
  stable : ∀ a, (sorted.filter fun b => cmp a b == .eq) = items.filter fun b => cmp a b == .eq

/-- What comes neither before nor after is equal. -/
lemma eq_of_ne_gt [Std.OrientedCmp cmp] {a b : α} (hab : cmp a b ≠ .gt) (hba : cmp b a ≠ .gt) :
    cmp a b = .eq := by
  rw [@Std.OrientedCmp.eq_swap _ cmp] at hba
  revert hab hba
  cases cmp a b <;> decide

/-- There is only one way to sort a list stably. -/
lemma StablySorted.unique [Std.TransCmp cmp] {other : List α} (h : StablySorted cmp items sorted)
    (hother : StablySorted cmp items other) : sorted = other := by
  obtain ⟨hperm, hordered, hstable⟩ := h
  replace hperm := hperm.trans hother.perm.symm
  replace hstable := fun a => (hstable a).trans (hother.stable a).symm
  replace hother := hother.ordered
  induction sorted generalizing other with
  | nil => exact hperm.nil_eq
  | cons a sorted ih =>
    match other with
    | [] => exact absurd hperm.length_eq (Nat.succ_ne_zero _)
    | b :: other =>
      rw [List.pairwise_cons] at hordered hother
      -- Either head comes first among all items, so they compare equal and stability decides.
      have hab : cmp a b ≠ .gt := by
        obtain rfl | hmem := List.mem_cons.mp (hperm.mem_iff.mpr List.mem_cons_self)
        · simp [Std.ReflCmp.compare_self]
        · exact hordered.1 b hmem
      have hba : cmp b a ≠ .gt := by
        obtain rfl | hmem := List.mem_cons.mp (hperm.mem_iff.mp List.mem_cons_self)
        · simp [Std.ReflCmp.compare_self]
        · exact hother.1 a hmem
      have heq : cmp a b = .eq := eq_of_ne_gt hab hba
      have hhead := hstable a
      rw [List.filter_cons_of_pos (by simp [Std.ReflCmp.compare_self]),
        List.filter_cons_of_pos (by simp [heq])] at hhead
      obtain rfl := (List.cons.inj hhead).1
      refine congrArg _ (ih hordered.2 hperm.cons_inv (fun c => ?_) hother.2)
      have hrest := hstable c
      rw [List.filter_cons, List.filter_cons] at hrest
      split at hrest
      · exact (List.cons.inj hrest).2
      · exact hrest

/-- Items of which each is greater than the later ones are turned round. -/
lemma StablySorted.eq_reverse [Std.TransCmp cmp] (h : StablySorted cmp items sorted)
    (hfalling : items.Pairwise fun a b => cmp a b = .gt) : sorted = items.reverse := by
  have hrising : items.reverse.Pairwise fun a b => cmp a b ≠ .gt :=
    List.pairwise_reverse.mpr (hfalling.imp fun hgt => by simp [Std.OrientedCmp.lt_of_gt hgt])
  refine List.Perm.eq_of_pairwise ?_ h.ordered hrising (h.perm.trans items.reverse_perm.symm)
  intro a b ha hb hab hba
  have hsymm : Std.Symm fun a b => cmp a b ≠ .eq :=
    ⟨fun _ _ hne heq => hne (Std.OrientedCmp.eq_symm heq)⟩
  have hdiffer : items.Pairwise fun a b => cmp a b ≠ .eq := hfalling.imp fun hgt => by simp [hgt]
  by_contra hne
  exact hdiffer.forall (h.perm.mem_iff.mp ha) (List.mem_reverse.mp hb) hne (eq_of_ne_gt hab hba)

/-- Merge sort sorts stably. -/
lemma stablySorted_mergeSort [Std.TransCmp cmp] (items : List α) :
    StablySorted cmp items (items.mergeSort fun a b => cmp a b != .gt) := by
  have htrans (a b c : α) (hab : (cmp a b != .gt) = true) (hbc : (cmp b c != .gt) = true) :
      (cmp a c != .gt) = true := by
    simp only [bne_iff_ne, ne_eq, Ordering.ne_gt_iff_isLE] at *
    exact Std.TransCmp.isLE_trans hab hbc
  have htotal (a b : α) : ((cmp a b != .gt) || (cmp b a != .gt)) = true := by
    rw [@Std.OrientedCmp.eq_swap _ cmp _ b a]
    cases cmp a b <;> rfl
  have hperm := items.mergeSort_perm fun a b => cmp a b != .gt
  refine ⟨hperm, ?_, fun a => ?_⟩
  · simpa only [bne_iff_ne] using List.pairwise_mergeSort htrans htotal items
  -- The items equal to one are all equal, so sorting keeps their order.
  have hequal :
      (items.filter fun b => cmp a b == .eq).Pairwise fun b c => (cmp b c != .gt) = true := by
    refine List.pairwise_of_forall_mem_list fun b hb c hc => ?_
    have hb := eq_of_beq (List.mem_filter.mp hb).2
    have hc := eq_of_beq (List.mem_filter.mp hc).2
    rw [← Std.TransCmp.congr_left hb, hc]
    rfl
  have hsublist := (List.sublist_mergeSort htrans htotal hequal List.filter_sublist).filter
    fun b => cmp a b == .eq
  rw [List.filter_filter] at hsublist
  simp only [Bool.and_self] at hsublist
  exact (hsublist.eq_of_length (hperm.filter _).length_eq.symm).symm

end Sorting

namespace Json

/-- How two items compare by a key, upwards or downwards. -/
def compareKeys {α : Type} (descending : Bool) (key : α → Json) (a b : α) : Ordering :=
  if descending then collate (key b) (key a) else collate (key a) (key b)

instance {α : Type} (descending : Bool) (key : α → Json) :
    Std.TransCmp (compareKeys descending key) where
  eq_swap {a b} := by
    cases descending <;> exact @Std.OrientedCmp.eq_swap _ collate _ _ _
  isLE_trans {a b c} hab hbc := by
    cases descending
    · exact @Std.TransCmp.isLE_trans _ collate _ _ _ _ hab hbc
    · exact @Std.TransCmp.isLE_trans _ collate _ _ _ _ hbc hab

/-- Sorting by a key is the stable sort by its collation, upwards and downwards. -/
theorem eq_sortByKey_iff {α : Type} {descending : Bool} {key : α → Json} {items sorted : List α} :
    sorted = sortByKey descending key items ↔
      StablySorted (compareKeys descending key) items sorted := by
  constructor
  · rintro rfl
    exact stablySorted_mergeSort items
  · intro h
    exact h.unique (stablySorted_mergeSort items)

end Json

end DocumentDb
