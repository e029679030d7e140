import DocumentDb.Text.Basic
import Mathlib.Algebra.Ring.Nat
import Mathlib.Data.List.TakeWhile
import Mathlib.Tactic.Common

/-!
# Decimal digits

What digits stand for, and how integers are written: the digits of the absolute value, after a sign
where the integer is negative.
-/

namespace DocumentDb.Text

/-- Characters of a kind are the longest beginning of that kind where none follows. -/
lemma takeWhile_dropWhile_append {p : Char → Bool} {text rest : List Char}
    (htext : ∀ c ∈ text, p c = true) (hrest : rest.head?.any p = false) :
    (text ++ rest).takeWhile p = text ∧ (text ++ rest).dropWhile p = rest := by
  have hstop : rest.takeWhile p = [] ∧ rest.dropWhile p = rest := by
    cases rest <;> simp_all
  rw [List.takeWhile_append_of_pos htext, List.dropWhile_append_of_pos htext, hstop.1, hstop.2,
    List.append_nil]
  exact ⟨rfl, rfl⟩

/-! ### Values of digits -/

lemma isDigit_iff {c : Char} : isDigit c = true ↔ 48 ≤ c.toNat ∧ c.toNat ≤ 57 := by
  rw [isDigit, Bool.and_eq_true, decide_eq_true_iff, decide_eq_true_iff]
  exact Iff.rfl

lemma isBlank_of_isDigit {c : Char} (h : isDigit c = true) : isBlank c = false := by
  rw [isDigit_iff] at h
  simp only [isBlank, Bool.or_eq_false_iff, Bool.and_eq_false_iff, decide_eq_false_iff_not,
    beq_eq_false_iff_ne]
  omega

lemma toLower_of_isDigit {c : Char} (h : isDigit c = true) : c.toLower = c := by
  rw [isDigit_iff] at h
  refine dif_neg fun hupper => ?_
  have hle : 65 ≤ c.toNat := UInt32.le_iff_toNat_le.mp hupper.1
  omega

lemma ofDigits_eq (cs : List Char) : ofDigits cs = Nat.ofDigitChars 10 cs 0 := by
  simp only [ofDigits, Nat.ofDigitChars_eq_foldl, Nat.mul_comm]
  rfl

/-- Digits in front count by the number of those behind them. -/
lemma ofDigits_append (front digits : List Char) :
    ofDigits (front ++ digits) = 10 ^ digits.length * ofDigits front + ofDigits digits := by
  simp only [ofDigits_eq, Nat.ofDigitChars_append]
  exact Nat.ofDigitChars_eq_ofDigitChars_zero

lemma ofDigits_replicate_zero (count : Nat) : ofDigits (List.replicate count '0') = 0 := by
  rw [ofDigits_eq, Nat.ofDigitChars_replicate_zero, Nat.mul_zero]

lemma isDigit_of_mem_zeros {count : Nat} : ∀ c ∈ List.replicate count '0', isDigit c = true := by
  intro c hc
  rw [List.eq_of_mem_replicate hc]
  rfl

/-! ### Written integers -/

lemma ofDigits_toDigits (n : Nat) : ofDigits (Nat.toDigits 10 n) = n := by
  rw [ofDigits_eq, Nat.ofDigitChars_ten_toDigits]

lemma isDigit_of_mem_toDigits {n : Nat} {c : Char} (h : c ∈ Nat.toDigits 10 n) :
    isDigit c = true :=
  isDigit_iff.mpr <| Char.isDigit_iff_toNat.mp <|
    Nat.isDigit_of_mem_toDigits (by decide) (by decide) h

/-- The number of digits is that of the first power of ten above. -/
lemma length_toDigits_bounds {n : Nat} (hn : n ≠ 0) :
    10 ^ ((Nat.toDigits 10 n).length - 1) ≤ n ∧ n < 10 ^ (Nat.toDigits 10 n).length := by
  have hpos : 0 < (Nat.toDigits 10 n).length := Nat.length_toDigits_pos
  constructor
  · by_contra hlt
    rcases Nat.eq_zero_or_pos ((Nat.toDigits 10 n).length - 1) with hone | hmore
    · rw [hone] at hlt
      omega
    · have hle := (Nat.length_toDigits_le_iff (by decide) hmore).mpr (Nat.not_le.mp hlt)
      omega
  · exact (Nat.length_toDigits_le_iff (by decide) hpos).mp le_rfl

/-- The digits of a number times a power of ten have zeros behind them. -/
lemma toDigits_mul_pow {n : Nat} (hn : 0 < n) (zeros : Nat) :
    Nat.toDigits 10 (n * 10 ^ zeros) = Nat.toDigits 10 n ++ List.replicate zeros '0' := by
  induction zeros with
  | zero => simp
  | succ zeros ih =>
    have happend := Nat.toDigits_append_toDigits (b := 10) (n := n * 10 ^ zeros) (d := 0)
      (by decide) (Nat.mul_pos hn (Nat.pow_pos (by decide))) (by decide)
    rw [Nat.pow_succ, ← Nat.mul_assoc, Nat.mul_comm _ 10, List.replicate_succ', ← List.append_assoc,
      ← ih]
    exact happend.symm

/-- The sign in front of the digits of a number. -/
def sign (negative : Bool) : List Char := if negative then ['-'] else []

/-- An integer is written as its sign and the digits of its absolute value. -/
lemma toList_toString (n : Int) :
    (toString n).toList = sign (n < 0) ++ Nat.toDigits 10 n.natAbs := by
  have hrepr (m : Nat) : m.repr = String.ofList (Nat.toDigits 10 m) := Nat.repr_eq_ofList_toDigits
  rw [Int.toString_eq_repr, Int.repr_eq_if, hrepr, hrepr]
  by_cases h : 0 ≤ n
  · have habs : n.toNat = n.natAbs := by omega
    simp [sign, h, habs]
  · have habs : (-n).toNat = n.natAbs := by omega
    simp [sign, h, habs, Int.not_le.mp h]

end DocumentDb.Text
