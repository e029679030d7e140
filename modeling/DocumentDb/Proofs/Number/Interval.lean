import DocumentDb.Proofs.Number.Rounding
import DocumentDb.Proofs.Text.Digits
import Mathlib.Tactic.Ring

/-!
# What rounds to a number

The binary64 number nearest to a quotient is the one whose interval the quotient lies in. A quotient
may lie in the interval of a power of two and yet below the power itself; then it has the place
values of the numbers below, and is rounded up to all 53 digits and one more.
-/

namespace DocumentDb

open Decimal (Interval)

namespace Double

/-! ### Rounding to a given number -/

/-- A quotient is rounded to an integer from which it is off by less than a half, or by a half where
the integer is even. -/
lemma divRound_eq {num den n : Nat} (hden : 0 < den) (hlow : 2 * (n * den) ≤ 2 * num + den)
    (hhigh : 2 * num ≤ 2 * (n * den) + den)
    (htie : n % 2 = 0 ∨ 2 * (n * den) < 2 * num + den ∧ 2 * num < 2 * (n * den) + den) :
    divRound num den = n := by
  have hnum := Nat.div_add_mod' num den
  have hrest := Nat.mod_lt num hden
  have hnotBelow : num / den ≤ n := by
    by_contra hlt
    have hmul : (n + 1) * den ≤ num / den * den := Nat.mul_le_mul_right den (by omega)
    rw [Nat.add_mul] at hmul
    omega
  have hnotAbove : n ≤ num / den + 1 := by
    by_contra hlt
    have hmul : (num / den + 2) * den ≤ n * den := Nat.mul_le_mul_right den (by omega)
    rw [Nat.add_mul] at hmul
    omega
  rw [divRound]
  obtain rfl | rfl : n = num / den ∨ n = num / den + 1 := by omega
  · split
    · rfl
    · split <;> omega
  · rw [Nat.add_mul] at hlow hhigh htie
    split
    · omega
    · split <;> omega

lemma scale_eq {quotient exponent : Nat} (hhigh : quotient < 2 ^ (53 + exponent))
    (hlow : exponent = 0 ∨ 2 ^ (52 + exponent) ≤ quotient) : scale quotient = exponent := by
  rcases Nat.eq_zero_or_pos quotient with rfl | hpos
  · have hpow := Nat.two_pow_pos (52 + exponent)
    obtain rfl : exponent = 0 := by omega
    rfl
  · have hlog : quotient.log2 < 53 + exponent := (Nat.log2_lt (by omega)).mpr hhigh
    rcases hlow with rfl | hlow
    · simp only [scale]
      omega
    · have hle : 52 + exponent ≤ quotient.log2 := (Nat.le_log2 (by omega)).mpr hlow
      simp only [scale]
      omega

lemma scale_div_eq {num den exponent : Nat} (hden : 0 < den)
    (hhigh : num < 2 ^ 53 * (den * 2 ^ exponent))
    (hlow : exponent = 0 ∨ 2 ^ 52 * (den * 2 ^ exponent) ≤ num) :
    scale (num / den) = exponent := by
  apply scale_eq
  · rw [Nat.div_lt_iff_lt_mul hden, Nat.pow_add, Nat.mul_assoc, Nat.mul_comm _ den]
    exact hhigh
  · rw [Nat.le_div_iff_mul_le hden, Nat.pow_add, Nat.mul_assoc, Nat.mul_comm _ den]
    exact hlow

lemma eq_of_fields {x y : Double} (hnegative : x.negative = y.negative)
    (hmantissa : x.mantissa = y.mantissa) (hexponent : x.exponent = y.exponent) : x = y := by
  cases x
  cases y
  simp_all

lemma mantissa_lt_two_pow (x : Double) : x.mantissa < 2 ^ 53 :=
  x.mantissa_lt.trans_eq (Nat.one_shiftLeft 53)

lemma magnitude_eq (x : Double) : x.magnitude = x.mantissa * 2 ^ x.exponent := Nat.shiftLeft_eq _ _

lemma magnitude_eq_zero_iff {x : Double} : x.magnitude = 0 ↔ x.mantissa = 0 := by
  rw [magnitude_eq, Nat.mul_eq_zero]
  exact or_iff_left (Nat.two_pow_pos _).ne'

lemma ofUnits?_of_mantissa {x : Double} {num den : Nat} (hscale : scale (num / den) = x.exponent)
    (hround : divRound num (den * 2 ^ x.exponent) = x.mantissa) :
    ofUnits? x.negative num den = some x := by
  have hlt := x.mantissa_lt
  rw [ofUnits?, dif_neg (by rw [hscale, Nat.shiftLeft_eq]; omega),
    dif_pos (by rw [hscale]; exact x.exponent_le)]
  refine congrArg some (eq_of_fields rfl ?_ hscale)
  simp only [hscale, Nat.shiftLeft_eq]
  exact hround

lemma ofUnits?_of_carry {x : Double} {num den exponent : Nat}
    (hscale : scale (num / den) = exponent)
    (hround : divRound num (den * 2 ^ exponent) = 2 ^ 53) (hmantissa : x.mantissa = 2 ^ 52)
    (hexponent : x.exponent = exponent + 1) : ofUnits? x.negative num den = some x := by
  have hle := x.exponent_le
  rw [ofUnits?, dif_pos (by rw [hscale, Nat.shiftLeft_eq]; exact hround),
    dif_pos (by omega)]
  exact congrArg some (eq_of_fields rfl hmantissa.symm (by simp only [hscale, hexponent]))

end Double

/-! ### The interval of a number -/

/-- Whether a quotient, in quarters of the unit, lies in an interval. -/
def Decimal.Interval.Contains (interval : Interval) (num den : Nat) : Prop :=
  if interval.closed then interval.low * den ≤ num ∧ num ≤ interval.high * den
  else interval.low * den < num ∧ num < interval.high * den

namespace Decimal.Interval

variable {interval : Interval} {num den : Nat}

lemma contains_of_lt (hlow : interval.low * den < num) (hhigh : num < interval.high * den) :
    interval.Contains num den := by
  rw [Contains]
  split
  · exact ⟨hlow.le, hhigh.le⟩
  · exact ⟨hlow, hhigh⟩

lemma Contains.le (h : interval.Contains num den) :
    interval.low * den ≤ num ∧ num ≤ interval.high * den := by
  rw [Contains] at h
  split at h
  · exact h
  · exact ⟨h.1.le, h.2.le⟩

/-- Lying in an interval is about the quotient only. -/
lemma contains_mul_right {c : Nat} (hc : 0 < c) :
    interval.Contains (num * c) (den * c) ↔ interval.Contains num den := by
  simp only [Contains, ← Nat.mul_assoc, Nat.mul_le_mul_right_iff hc, Nat.mul_lt_mul_right hc]

end Decimal.Interval

namespace Double

variable {x : Double} {num den : Nat}

/-- Below a power of two the interval ends at a quarter of the place value, not at a half of it. -/
lemma low_ofDouble : (Interval.ofDouble x).low =
    if x.mantissa = 2 ^ 52 ∧ x.exponent ≠ 0 then (4 * x.mantissa - 1) * 2 ^ x.exponent
    else (4 * x.mantissa - 2) * 2 ^ x.exponent := by
  simp only [Interval.ofDouble, magnitude_eq, Nat.shiftLeft_eq, Nat.one_mul, Nat.sub_mul]
  split <;> rw [Nat.mul_assoc]

lemma high_ofDouble : (Interval.ofDouble x).high = (4 * x.mantissa + 2) * 2 ^ x.exponent := by
  simp only [Interval.ofDouble, magnitude_eq, Nat.shiftLeft_eq, Nat.one_mul, Nat.add_mul,
    Nat.mul_assoc]

/-- What lies in the interval is off by half the place value at most, and by less where the mantissa
is odd. -/
lemma near_of_contains (h : (Interval.ofDouble x).Contains (4 * num) den) :
    2 * (x.mantissa * (den * 2 ^ x.exponent)) ≤ 2 * num + den * 2 ^ x.exponent ∧
      2 * num ≤ 2 * (x.mantissa * (den * 2 ^ x.exponent)) + den * 2 ^ x.exponent ∧
      (x.mantissa % 2 = 0 ∨
        2 * (x.mantissa * (den * 2 ^ x.exponent)) < 2 * num + den * 2 ^ x.exponent ∧
          2 * num < 2 * (x.mantissa * (den * 2 ^ x.exponent)) + den * 2 ^ x.exponent) := by
  have hclosed : (Interval.ofDouble x).closed = decide (x.mantissa % 2 = 0) := rfl
  have hlow : 4 * (x.mantissa * (den * 2 ^ x.exponent)) - 2 * (den * 2 ^ x.exponent) ≤
      (Interval.ofDouble x).low * den := by
    rw [← Nat.mul_assoc, ← Nat.sub_mul, low_ofDouble, Nat.mul_comm den, ← Nat.mul_assoc]
    apply Nat.mul_le_mul_right
    split <;> apply Nat.mul_le_mul_right <;> omega
  have hhigh : (Interval.ofDouble x).high * den =
      4 * (x.mantissa * (den * 2 ^ x.exponent)) + 2 * (den * 2 ^ x.exponent) := by
    rw [high_ofDouble]
    ring
  rw [Interval.Contains, hclosed, hhigh] at h
  by_cases heven : x.mantissa % 2 = 0
  · rw [if_pos (decide_eq_true heven)] at h
    omega
  · rw [if_neg (by simpa using heven)] at h
    omega

/-- Where the place values are those of the number, it is only the mantissa that is rounded. -/
lemma ofUnits?_of_binade (hden : 0 < den) (h : (Interval.ofDouble x).Contains (4 * num) den)
    (hbinade : x.exponent = 0 ∨ 2 ^ 52 * (den * 2 ^ x.exponent) ≤ num) :
    ofUnits? x.negative num den = some x := by
  obtain ⟨hlow, hhigh, htie⟩ := near_of_contains h
  have hplace : 0 < den * 2 ^ x.exponent := Nat.mul_pos hden (Nat.two_pow_pos _)
  have hmost : x.mantissa * (den * 2 ^ x.exponent) ≤ (2 ^ 53 - 1) * (den * 2 ^ x.exponent) :=
    Nat.mul_le_mul_right _ (Nat.le_pred_of_lt x.mantissa_lt_two_pow)
  exact ofUnits?_of_mantissa (scale_div_eq hden (by omega) hbinade)
    (divRound_eq hplace hlow hhigh htie)

/-- Only a power of two has an interval that reaches below its place values; what lies there is
rounded up to the power. -/
lemma ofUnits?_of_below (hden : 0 < den) (h : (Interval.ofDouble x).Contains (4 * num) den)
    (hexponent : x.exponent ≠ 0) (hbelow : num < 2 ^ 52 * (den * 2 ^ x.exponent)) :
    ofUnits? x.negative num den = some x := by
  have hpower : x.mantissa = 2 ^ 52 := by
    have hlow := (near_of_contains h).1
    have hnormal := x.normal.resolve_left hexponent
    rw [Nat.one_shiftLeft] at hnormal
    by_contra hne
    have hmul : (2 ^ 52 + 1) * (den * 2 ^ x.exponent) ≤ x.mantissa * (den * 2 ^ x.exponent) :=
      Nat.mul_le_mul_right _ (by omega)
    omega
  obtain ⟨exponent, hsucc⟩ := Nat.exists_eq_succ_of_ne_zero hexponent
  have hhalf : den * 2 ^ x.exponent = 2 * (den * 2 ^ exponent) := by
    rw [hsucc, Nat.pow_succ]
    ring
  have hend : (2 ^ 55 - 2) * (den * 2 ^ exponent) ≤ 4 * num := by
    refine le_of_eq_of_le ?_ h.le.1
    rw [low_ofDouble, if_pos ⟨hpower, hexponent⟩, hpower, Nat.mul_assoc, Nat.mul_comm _ den, hhalf]
    ring
  have hplace : 0 < den * 2 ^ exponent := Nat.mul_pos hden (Nat.two_pow_pos _)
  rw [hhalf] at hbelow
  exact ofUnits?_of_carry (scale_div_eq hden (by omega) (.inr (by omega)))
    (divRound_eq hplace (by omega) (by omega) (.inl rfl)) hpower hsucc

/-- What lies in the interval of a number is rounded to it. -/
lemma ofUnits?_of_contains (hden : 0 < den) (h : (Interval.ofDouble x).Contains (4 * num) den) :
    ofUnits? x.negative num den = some x := by
  by_cases hbinade : x.exponent = 0 ∨ 2 ^ 52 * (den * 2 ^ x.exponent) ≤ num
  · exact ofUnits?_of_binade hden h hbinade
  · rw [not_or, Nat.not_le] at hbinade
    exact ofUnits?_of_below hden h hbinade.1 hbinade.2

end Double

/-! ### Rounding a decimal -/

/-- Whether a decimal lies in an interval. -/
def Decimal.LiesIn (decimal : Decimal) (interval : Interval) : Prop :=
  interval.Contains (decimal.digits * (4 * Double.one * 10 ^ decimal.exponent.toNat))
    (10 ^ (-decimal.exponent).toNat)

namespace Double

variable {x : Double}

lemma low_pos (hx : x.mantissa ≠ 0) : 0 < (Interval.ofDouble x).low := by
  rw [low_ofDouble]
  split <;> exact Nat.mul_pos (by omega) (Nat.two_pow_pos _)

lemma high_lt : (Interval.ofDouble x).high < 4 * one * 10 ^ 400 := by
  have hmantissa := x.mantissa_lt_two_pow
  calc (Interval.ofDouble x).high = (4 * x.mantissa + 2) * 2 ^ x.exponent := high_ofDouble
    _ ≤ (4 * 2 ^ 53) * 2 ^ 2045 :=
      Nat.mul_le_mul (by omega) (Nat.pow_le_pow_right (by decide) x.exponent_le)
    _ < 4 * one * 10 ^ 400 := by decide +kernel

variable {digits : Nat} {exponent : Int}

/-- A decimal in the interval of a number is not too great to be looked at, -/
lemma length_add_le (hdigits : digits ≠ 0) (h : Decimal.LiesIn ⟨digits, exponent⟩ (.ofDouble x)) :
    (Nat.toDigits 10 digits).length + exponent ≤ 400 := by
  have hden : 0 < 10 ^ (-exponent).toNat := Nat.pow_pos (by decide)
  have hlength : 0 < (Nat.toDigits 10 digits).length := Nat.length_toDigits_pos
  have hbound := (Text.length_toDigits_bounds hdigits).1
  by_contra hgreat
  have hpow : 10 ^ 400 * 10 ^ (-exponent).toNat ≤ digits * 10 ^ exponent.toNat :=
    calc 10 ^ 400 * 10 ^ (-exponent).toNat
        ≤ 10 ^ ((Nat.toDigits 10 digits).length - 1 + exponent.toNat) := by
          rw [← Nat.pow_add]
          exact Nat.pow_le_pow_right (by decide) (by omega)
      _ ≤ digits * 10 ^ exponent.toNat := by
          rw [Nat.pow_add]
          exact Nat.mul_le_mul_right _ hbound
  refine absurd h.le.2 (Nat.not_le.mpr ?_)
  calc (Interval.ofDouble x).high * 10 ^ (-exponent).toNat
      < 4 * one * 10 ^ 400 * 10 ^ (-exponent).toNat := Nat.mul_lt_mul_of_pos_right high_lt hden
    _ = 4 * one * (10 ^ 400 * 10 ^ (-exponent).toNat) := Nat.mul_assoc _ _ _
    _ ≤ 4 * one * (digits * 10 ^ exponent.toNat) := Nat.mul_le_mul_left _ hpow
    _ = digits * (4 * one * 10 ^ exponent.toNat) := by ring

/-- nor too small, unless that number is zero. -/
lemma le_length_add (hx : x.mantissa ≠ 0) (hdigits : digits ≠ 0)
    (h : Decimal.LiesIn ⟨digits, exponent⟩ (.ofDouble x)) :
    -400 ≤ (Nat.toDigits 10 digits).length + exponent := by
  have hbound := (Text.length_toDigits_bounds hdigits).2
  have hone : 4 * one ≤ 10 ^ 400 := by decide +kernel
  by_contra hsmall
  have hpow : 10 ^ ((Nat.toDigits 10 digits).length + exponent.toNat) * 10 ^ 400 ≤
      10 ^ (-exponent).toNat := by
    rw [← Nat.pow_add]
    exact Nat.pow_le_pow_right (by decide) (by omega)
  refine absurd h.le.1 (Nat.not_le.mpr ?_)
  calc digits * (4 * one * 10 ^ exponent.toNat)
      = digits * 10 ^ exponent.toNat * (4 * one) := by ring
    _ < 10 ^ ((Nat.toDigits 10 digits).length + exponent.toNat) * (4 * one) := by
        rw [Nat.pow_add]
        exact Nat.mul_lt_mul_of_pos_right
          (Nat.mul_lt_mul_of_pos_right hbound (Nat.pow_pos (by decide))) (by decide)
    _ ≤ 10 ^ (-exponent).toNat := (Nat.mul_le_mul_left _ hone).trans hpow
    _ ≤ (Interval.ofDouble x).low * 10 ^ (-exponent).toNat :=
        Nat.le_mul_of_pos_left _ (low_pos hx)

/-- A decimal that lies in the interval of a number is rounded to it. -/
lemma ofDecimal?_of_liesIn (hx : x.mantissa ≠ 0)
    (h : Decimal.LiesIn ⟨digits, exponent⟩ (.ofDouble x)) :
    ofDecimal? x.negative digits exponent = some x := by
  have hden : 0 < 10 ^ (-exponent).toNat := Nat.pow_pos (by decide)
  have hdigits : digits ≠ 0 := by
    rintro rfl
    have hlow := h.le.1
    have hpos := Nat.mul_pos (low_pos hx) hden
    dsimp only at hlow
    omega
  have hgreat := length_add_le hdigits h
  have hsmall := le_length_add hx hdigits h
  rw [ofDecimal?, if_neg hdigits]
  dsimp only
  rw [if_neg (by omega), if_neg (by omega)]
  rw [Decimal.LiesIn] at h
  apply ofUnits?_of_contains hden
  convert h using 1
  simp only [Nat.pow_eq]
  ring

end Double

end DocumentDb
