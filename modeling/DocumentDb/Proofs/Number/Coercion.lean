import DocumentDb.Json.Coercion
import DocumentDb.Proofs.Number.Integers
import DocumentDb.Proofs.Text.Digits

/-!
# Integers and their texts

An integer counts the same as a number and as its text, as long as its absolute value fits the
signed 64-bit integers. Beyond, a number counts as the nearest of them and a text as zero; so does
the text of the smallest, because its digits are read before its sign.
-/

namespace DocumentDb

open Number (clamp minInt maxInt InRange)

/-! ### Numbers -/

lemma Number.clamp_range (n : Int) : minInt ≤ clamp n ∧ clamp n ≤ maxInt := by
  simp only [clamp, minInt, maxInt]
  omega

lemma Number.clamp_eq_self {n : Int} (h : minInt ≤ n ∧ n ≤ maxInt) : clamp n = n := by
  rw [clamp]
  omega

lemma Number.toInt_range (n : Number) : minInt ≤ n.toInt ∧ n.toInt ≤ maxInt := by
  cases n with
  | int value inRange =>
    rw [toInt]
    split
    · rename_i hle
      exact ⟨inRange.1, hle⟩
    · exact clamp_range _
  | float x => exact clamp_range _

lemma Double.trunc_eq_tdiv (x : Double) : x.trunc = x.units.tdiv one := by
  rw [trunc, units]
  split
  · rw [Int.neg_tdiv]
    rfl
  · rfl

/-- The integer part of an integer is that integer. -/
lemma Double.trunc_eq {x : Double} {n : Int} (h : x.units = n * one) : x.trunc = n := by
  rw [trunc_eq_tdiv, h]
  exact Int.mul_tdiv_cancel n (by decide)

/-- A number is the signed 64-bit integer nearest to the integer that it stands for. -/
lemma Number.toInt_ofInt {n : Int} (h : InRange n) : (ofInt n).toInt = clamp n := by
  rw [ofInt, dif_pos h, toInt]
  split
  · rename_i hle
    exact (clamp_eq_self ⟨h.1, hle⟩).symm
  · rename_i hgt
    have hunits := (Double.units_ofInt (n := n) (by omega)).1
    have hnear : Double.nearest (2 ^ 63) ≤ Double.nearest n :=
      Double.nearest_mono (by simp only [maxInt] at hgt; omega)
    rw [Double.nearest_eq_self ⟨1, 63, by decide, by decide⟩] at hnear
    rw [toDouble, Double.trunc_eq hunits, clamp, clamp]
    simp only [maxInt] at *
    omega

/-! ### Texts -/

/-- What digits count for that stand behind a sign. -/
def Json.spelledInt (negative : Bool) (digits : Nat) : Int :=
  let magnitude : Int := if (digits : Int) ≤ maxInt then digits else 0
  if negative then -magnitude else magnitude

lemma Json.spelledInt_range (negative : Bool) (digits : Nat) :
    minInt ≤ spelledInt negative digits ∧ spelledInt negative digits ≤ maxInt := by
  have hbounds : minInt = -maxInt - 1 := rfl
  have hpositive : 0 ≤ maxInt := by decide
  rw [spelledInt]
  cases negative <;> simp only [Bool.false_eq_true, if_true, if_false] <;> split <;> omega

/-- Whatever counts as an integer counts as a signed 64-bit one. -/
lemma Json.toInt_range (value : Json) : minInt ≤ value.toInt ∧ value.toInt ≤ maxInt := by
  have hzero : minInt ≤ 0 ∧ 0 ≤ maxInt := by decide
  cases value with
  | number n => exact n.toInt_range
  | string s =>
    rw [toInt, leadingInt]
    split
    · exact spelledInt_range true _
    · exact spelledInt_range false _
    · exact spelledInt_range false _
  | null | bool | array | object => exact hzero

/-- A string counts for the digits that it starts with, after white space and a sign. -/
lemma Json.leadingInt_eq {s : String} {blanks digits rest : List Char} (negative : Bool)
    (hs : s.toList = blanks ++ (Text.sign negative ++ digits ++ rest))
    (hblanks : ∀ c ∈ blanks, Text.isBlank c = true)
    (hdigits : ∀ c ∈ digits, Text.isDigit c = true) (hne : digits ≠ [])
    (hrest : rest.head?.any Text.isDigit = false) :
    leadingInt s = spelledInt negative (Text.ofDigits digits) := by
  obtain ⟨first, more, rfl⟩ := List.exists_cons_of_ne_nil hne
  have hfirst : Text.isDigit first = true := hdigits first List.mem_cons_self
  have htrim : Text.trimLeft s.toList = Text.sign negative ++ first :: (more ++ rest) := by
    rw [hs, Text.trimLeft]
    refine (Text.takeWhile_dropWhile_append hblanks ?_).2.trans (by simp)
    cases negative with
    | true => rfl
    | false => exact Text.isBlank_of_isDigit hfirst
  have hrun : (first :: (more ++ rest)).takeWhile Text.isDigit = first :: more :=
    (Text.takeWhile_dropWhile_append hdigits hrest).1
  rw [leadingInt, htrim]
  cases negative with
  | true =>
    simp only [Text.sign, if_true, List.singleton_append, hrun]
    rfl
  | false =>
    simp only [Text.sign, Bool.false_eq_true, if_false, List.nil_append]
    split
    · rename_i heq
      obtain ⟨rfl, -⟩ := List.cons.inj heq
      cases hfirst
    · rename_i heq
      obtain ⟨rfl, -⟩ := List.cons.inj heq
      cases hfirst
    · rw [hrun]
      rfl

/-- Whether a text starts with the digits of an integer: after white space, with its sign in front
and no further digit behind them. -/
def Json.Spells (text : String) (n : Int) : Prop :=
  ∃ blanks rest : List Char, (∀ c ∈ blanks, Text.isBlank c = true) ∧
    rest.head?.any Text.isDigit = false ∧ text.toList = blanks ++ ((toString n).toList ++ rest)

lemma Json.Spells.leadingInt_eq {text : String} {n : Int} (h : Spells text n) :
    leadingInt text = if minInt < n ∧ n ≤ maxInt then n else 0 := by
  obtain ⟨blanks, rest, hblanks, hrest, htext⟩ := h
  rw [Text.toList_toString] at htext
  rw [Json.leadingInt_eq _ htext hblanks (fun c => Text.isDigit_of_mem_toDigits)
    Nat.toDigits_ne_nil hrest, Text.ofDigits_toDigits, spelledInt]
  simp only [decide_eq_true_iff]
  by_cases hfits : (n.natAbs : Int) ≤ maxInt
  · have hrange : minInt < n ∧ n ≤ maxInt := by
      simp only [minInt, maxInt] at hfits ⊢
      omega
    rw [if_pos hfits, if_pos hrange]
    split <;> omega
  · have hrange : ¬ (minInt < n ∧ n ≤ maxInt) := by
      simp only [minInt, maxInt] at hfits ⊢
      omega
    rw [if_neg hfits, if_neg hrange, Int.neg_zero, ite_self]

/-- An integer counts the same as a number and as its text just where its absolute value fits the
signed 64-bit integers, and then it counts as itself. Beyond, a number counts as the nearest of
them, a text as zero. -/
theorem Json.toInt_text {n : Int} (hn : InRange n) {text : String} (htext : Spells text n) :
    ((int n).toInt = (string text).toInt ↔ minInt < n ∧ n ≤ maxInt) ∧
      (minInt < n ∧ n ≤ maxInt → (int n).toInt = n ∧ (string text).toInt = n) ∧
      (¬ (minInt < n ∧ n ≤ maxInt) → (int n).toInt = clamp n ∧ (string text).toInt = 0) := by
  have hnumber : (int n).toInt = clamp n := Number.toInt_ofInt hn
  have hstring : (string text).toInt = if minInt < n ∧ n ≤ maxInt then n else 0 :=
    htext.leadingInt_eq
  by_cases hrange : minInt < n ∧ n ≤ maxInt
  · have hclamp : clamp n = n := Number.clamp_eq_self ⟨hrange.1.le, hrange.2⟩
    have hboth : (int n).toInt = n ∧ (string text).toInt = n :=
      ⟨hnumber.trans hclamp, hstring.trans (if_pos hrange)⟩
    exact ⟨iff_of_true (hboth.1.trans hboth.2.symm) hrange, fun _ => hboth,
      fun hbeyond => absurd hrange hbeyond⟩
  · have hclamp : clamp n ≠ 0 := by
      rw [clamp]
      simp only [minInt, maxInt] at hrange ⊢
      omega
    have hzero : (string text).toInt = 0 := hstring.trans (if_neg hrange)
    refine ⟨iff_of_false (fun hsame => hclamp ?_) hrange, fun hfits => absurd hfits hrange,
      fun _ => ⟨hnumber, hzero⟩⟩
    rw [← hnumber, hsame, hzero]

/-- The largest of the signed 64-bit integers counts as itself, also with a unit behind it. -/
theorem Json.toInt_text_largest :
    InRange maxInt ∧ Spells " 9223372036854775807 ms" maxInt ∧
      (int maxInt).toInt = maxInt ∧ (string " 9223372036854775807 ms").toInt = maxInt := by
  have hn : InRange maxInt := by decide
  have htext : Spells " 9223372036854775807 ms" maxInt :=
    ⟨[' '], [' ', 'm', 's'], List.forall_mem_singleton.mpr rfl, rfl, by decide +kernel⟩
  exact ⟨hn, htext, (toInt_text hn htext).2.1 (by decide)⟩

/-- The smallest of the signed 64-bit integers counts as zero where it is a text. -/
theorem Json.not_toInt_text :
    ¬ ∀ n, InRange n → ∀ text, Spells text n →
      (int n).toInt = (string text).toInt ∧
        (minInt ≤ n ∧ n ≤ maxInt → (int n).toInt = n ∧ (string text).toInt = n) := by
  intro hsame
  have htext : Spells "-9223372036854775808" minInt :=
    ⟨[], [], List.forall_mem_nil _, rfl, by decide +kernel⟩
  have hcounted := ((hsame minInt (by decide) _ htext).2 (by decide)).2
  revert hcounted
  decide

end DocumentDb
