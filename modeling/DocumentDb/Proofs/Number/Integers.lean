import DocumentDb.Proofs.Json.Comparison
import DocumentDb.Proofs.Selector.Equality
import DocumentDb.View.Reducer

/-!
# Comparing integers

Integers are kept exactly, but compared as the binary64 numbers nearest to them. So the comparisons
of two integers, and all that goes by them, are exact just where the two do not become the same
number. That is so up to `2 ^ 53`, and for all integers that are far enough apart; `2 ^ 53` and
`2 ^ 53 + 1` are taken for equal. An order is never turned round.
-/

namespace DocumentDb

/-! ### Integers as numbers -/

/-- Whether an integer fits 64 bits, signed or unsigned. -/
abbrev Number.InRange (n : Int) : Prop := -0x8000000000000000 ≤ n ∧ n < 0x10000000000000000

namespace Double

/-- Integers are in the order of the integers that they are taken to in the same order. -/
lemma compare_congr {a b m n : Int} (hlt : m < n → a < b) (heq : m = n → a = b)
    (hgt : n < m → b < a) : Ord.compare a b = Ord.compare m n := by
  rcases Int.lt_trichotomy m n with h | h | h
  · rw [Std.compare_eq_lt.mpr h, Std.compare_eq_lt]
    exact hlt h
  · rw [Std.compare_eq_iff_eq.mpr h, Std.compare_eq_iff_eq]
    exact heq h
  · rw [Std.compare_eq_gt.mpr h, Std.compare_eq_gt]
    exact hgt h

lemma compare_mul_one (m n : Int) : Ord.compare (m * one) (n * one) = Ord.compare m n := by
  have hone : (0 : Int) < one := by decide
  have hlt {i j : Int} (h : i < j) : i * one < j * one := Int.mul_lt_mul_of_pos_right h hone
  exact compare_congr hlt (congrArg (· * (one : Int))) hlt

/-- Rounded integers are in the order of the integers, unless they have become the same. -/
lemma compare_nearest {m n : Int} (h : nearest m = nearest n → m = n) :
    Ord.compare (nearest m) (nearest n) = Ord.compare m n := by
  apply compare_congr
  · intro hlt
    exact (nearest_mono hlt.le).lt_of_ne fun heq => hlt.ne (h heq)
  · exact congrArg nearest
  · intro hgt
    exact (nearest_mono hgt.le).lt_of_ne fun heq => hgt.ne' (h heq.symm)

end Double

namespace Json

open Double (nearest Representable)
open Number (InRange)

variable {x y : Int}

lemma int_eq (h : InRange x) : int x = .number (.int x h) := congrArg Json.number (dif_pos h)

lemma compare_ofInt (hx : InRange x) (hy : InRange y) :
    (Double.ofInt x).compare (Double.ofInt y) = compare (nearest x) (nearest y) := by
  rw [Double.compare, (Double.units_ofInt (n := x) (by omega)).1,
    (Double.units_ofInt (n := y) (by omega)).1, Double.compare_mul_one]

lemma compare?_int (hx : InRange x) (hy : InRange y) :
    (int x).compare? (int y) = some (compare (nearest x) (nearest y)) := by
  rw [int_eq hx, int_eq hy, compare?]
  exact congrArg some (compare_ofInt hx hy)

lemma collate_int (hx : InRange x) (hy : InRange y) :
    collate (int x) (int y) = compare (nearest x) (nearest y) := by
  have hne (n : Int) (h : InRange n) : Number.int n h ≠ Number.negativeZero := nofun
  rw [int_eq hx, int_eq hy, collate_number (hne x hx) (hne y hy)]
  exact compare_ofInt hx hy

lemma deepEqual_int (hx : InRange x) (hy : InRange y) :
    (int x).deepEqual (int y) = decide (nearest x = nearest y) := by
  rw [int_eq hx, int_eq hy, deepEqual, Bool.eq_iff_iff, Double.numericEq, beq_iff_eq,
    decide_eq_true_iff, ← Std.compare_eq_iff_eq, ← Std.compare_eq_iff_eq (α := Int)]
  exact Eq.congr_left (compare_ofInt hx hy)

/-! ### What goes by the comparisons -/

/-- The names of operators that compare, with the orders that they accept. -/
def orderOperators : List (String × (Ordering → Bool)) :=
  [("$eq", (· == .eq)), ("$ne", (· != .eq)), ("$lt", (· == .lt)), ("$lte", (· != .gt)),
    ("$gt", (· == .gt)), ("$gte", (· != .lt))]

/-- What it means that two integers are compared as the integers they are. -/
structure ComparedExactly (x y : Int) : Prop where
  deepEqual : (int x).deepEqual (int y) = decide (x = y)
  compare? : (int x).compare? (int y) = some (compare x y)
  collate : collate (int x) (int y) = compare x y
  /-- Selectors decide by the integers whether a field of a document equals an integer -/
  equals : ∀ field ∉ ["$and", "$or", "$nor", "$not"], ∀ document : Json,
    document.get? field = some (int x) →
      ∃ selector, Selector.ofJson (.object [(field, int y)]) = .ok selector ∧
        selector.matchesDocument document = decide (x = y)
  /-- and how it compares to one. -/
  operators : ∀ field ∉ ["$and", "$or", "$nor", "$not"], ∀ document : Json,
    document.get? field = some (int x) → ∀ operator ∈ orderOperators,
      ∃ selector, Selector.ofJson (.object [(field, .object [(operator.1, int y)])]) =
          .ok selector ∧
        selector.matchesDocument document = operator.2 (compare x y)
  /-- Rows with these keys are in one group where the integers are the same. -/
  groups : ∀ (reducer : Reducer) (first second : ViewRow), first.key = int x →
    second.key = int y → (reducer.totals [first, second]).length = if x = y then 1 else 2

/-- A selector with one clause, on the value of a field. -/
lemma ofJson_field {field : String} (hfield : field ∉ ["$and", "$or", "$nor", "$not"])
    (operand : Json) :
    Selector.ofJson (.object [(field, operand)]) =
      (Selector.conditionOf operand).map fun condition => .mk [.field field condition] := by
  simp only [List.mem_cons, not_or] at hfield
  obtain ⟨hand, hor, hnor, hnot, -⟩ := hfield
  rw [Selector.ofJson, Selector.clausesOf, Selector.clausesOf, Selector.clauseOf_eq]
  split <;> try contradiction
  cases Selector.conditionOf operand <;> rfl

lemma matchesDocument_field {field : String} {condition : Condition} {document : Json} :
    Selector.matchesDocument (.mk [.field field condition]) document =
      Selector.conditionHolds condition (document.get? field) := by
  rw [Selector.matchesDocument_eq]
  simp [Selector.satisfies, Selector.satisfiesClauses, Selector.satisfiesClause]

/-- An operator that compares decides by equality or by the order of the selector operators. -/
lemma operatorHolds_of_mem {operator : String × (Ordering → Bool)}
    (hoperator : operator ∈ orderOperators) {a b : Json} {order : Ordering}
    (hcompare : a.compare? b = some order) (hequal : a.deepEqual b = (order == .eq)) :
    ∃ read, Selector.operatorOf operator.1 b = .ok read ∧
      Selector.operatorHolds read (some a) = operator.2 order := by
  have hordered (accept : Ordering → Bool) : Selector.ordered accept (some a) b = accept order := by
    rw [Selector.ordered, Option.bind_some, hcompare, Option.any_some]
  simp only [orderOperators, List.mem_cons, List.not_mem_nil, or_false] at hoperator
  rcases hoperator with rfl | rfl | rfl | rfl | rfl | rfl
  · exact ⟨.eq b, by simp [Selector.operatorOf, Selector.readPlain], hequal⟩
  · exact ⟨.ne b, by simp [Selector.operatorOf, Selector.readPlain], congrArg not hequal⟩
  · exact ⟨.lt b, by simp [Selector.operatorOf, Selector.readPlain], hordered _⟩
  · exact ⟨.lte b, by simp [Selector.operatorOf, Selector.readPlain], hordered _⟩
  · exact ⟨.gt b, by simp [Selector.operatorOf, Selector.readPlain], hordered _⟩
  · exact ⟨.gte b, by simp [Selector.operatorOf, Selector.readPlain], hordered _⟩

/-- Two rows are in one group where their keys are equal. -/
lemma length_totals_pair (reducer : Reducer) (first second : ViewRow) :
    (reducer.totals [first, second]).length =
      if first.key.deepEqual second.key = true then 1 else 2 := by
  simp only [Reducer.totals, List.foldl_cons, List.foldl_nil, Reducer.addUnder]
  split <;> rfl

/-- Integers that do not become the same number are compared exactly. -/
lemma comparedExactly_of (hx : InRange x) (hy : InRange y) (h : nearest x = nearest y → x = y) :
    ComparedExactly x y := by
  have hdeepEqual : (int x).deepEqual (int y) = decide (x = y) := by
    rw [deepEqual_int hx hy, decide_eq_decide]
    exact ⟨h, congrArg nearest⟩
  have hcompare : (int x).compare? (int y) = some (compare x y) := by
    rw [compare?_int hx hy, Double.compare_nearest h]
  have horder : decide (x = y) = (compare x y == .eq) := by
    rw [Bool.eq_iff_iff, decide_eq_true_iff, beq_iff_eq, Std.compare_eq_iff_eq]
  constructor
  case deepEqual => exact hdeepEqual
  case compare? => exact hcompare
  case collate => rw [collate_int hx hy, Double.compare_nearest h]
  case equals =>
    intro field hfield document hvalue
    refine ⟨.mk [.field field (.equals (int y))], ?_, ?_⟩
    · rw [ofJson_field hfield]
      simp [int, Selector.conditionOf, Except.map]
    · rw [matchesDocument_field, hvalue]
      exact hdeepEqual
  case operators =>
    intro field hfield document hvalue operator hoperator
    obtain ⟨read, hread, hholds⟩ :=
      operatorHolds_of_mem hoperator hcompare (hdeepEqual.trans horder)
    refine ⟨.mk [.field field (.operators [read])], ?_, ?_⟩
    · rw [ofJson_field hfield, Selector.conditionOf, Selector.operatorsOf, Selector.operatorsOf,
        hread]
      rfl
    · rw [matchesDocument_field, hvalue, Selector.conditionHolds, Selector.operatorsHold, hholds,
        Selector.operatorsHold, Bool.and_true]
  case groups =>
    intro reducer first second hfirst hsecond
    rw [length_totals_pair, hfirst, hsecond, hdeepEqual]
    simp

/-- Two integers are compared exactly just where they do not become the same number. Their order is
never turned round, and they are compared exactly where 53 binary digits, and zeros behind them, are
enough for both, as up to `2 ^ 53`, or where they are more than `2 ^ 11` apart. -/
theorem comparedExactly_iff (hx : InRange x) (hy : InRange y) :
    (ComparedExactly x y ↔ (nearest x = nearest y → x = y)) ∧
      (x ≤ y → collate (int x) (int y) ≠ .gt ∧ (int x).compare? (int y) ≠ some .gt) ∧
      (Representable x → Representable y → ComparedExactly x y) ∧
      (2 ^ 11 < (x - y).natAbs → ComparedExactly x y) := by
  refine ⟨⟨fun h heq => ?_, comparedExactly_of hx hy⟩, fun hle => ?_, fun hxs hys => ?_,
    fun hapart => ?_⟩
  · have hequal := h.deepEqual
    rw [deepEqual_int hx hy, decide_eq_decide] at hequal
    exact hequal.mp heq
  · have horder : compare (nearest x) (nearest y) ≠ .gt := by
      have hmono := Double.nearest_mono hle
      rw [ne_eq, Std.compare_eq_gt]
      omega
    rw [collate_int hx hy, compare?_int hx hy]
    exact ⟨horder, fun hreversed => horder (Option.some.inj hreversed)⟩
  · apply comparedExactly_of hx hy
    rw [Double.nearest_eq_self hxs, Double.nearest_eq_self hys]
    exact id
  · apply comparedExactly_of hx hy
    have hnearx := Double.nearest_near (n := x) (by omega)
    have hneary := Double.nearest_near (n := y) (by omega)
    omega

/-- `2 ^ 60` has more than 53 binary digits, but only zeros behind the first. -/
theorem comparedExactly_iff_large :
    InRange (2 ^ 53 - 1) ∧ InRange (2 ^ 60) ∧ ComparedExactly (2 ^ 53 - 1) (2 ^ 60) := by
  have hx : InRange (2 ^ 53 - 1) := by decide
  have hy : InRange (2 ^ 60) := by decide
  refine ⟨hx, hy, (comparedExactly_iff hx hy).2.2.1 ?_ ⟨1, 60, by decide, by decide⟩⟩
  exact Double.representable_of_natAbs_le (by decide)

/-- Not all integers are compared exactly: `2 ^ 53` and `2 ^ 53 + 1` are taken for equal. -/
theorem not_comparedExactly : ¬ ∀ x y, InRange x → InRange y → ComparedExactly x y := by
  intro hexact
  have hequal := (hexact (2 ^ 53) (2 ^ 53 + 1) (by decide) (by decide)).deepEqual
  have htaken : (int (2 ^ 53)).deepEqual (int (2 ^ 53 + 1)) = true := by decide +kernel
  rw [htaken] at hequal
  exact absurd hequal (by decide)

end Json

end DocumentDb
