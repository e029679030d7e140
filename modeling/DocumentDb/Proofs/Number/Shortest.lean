import DocumentDb.Proofs.Number.Interval

/-!
# The shortest decimal

The decimal that is written for a number is rounded to that number again. What is tested on a grid
is just that; and the grid of 17 digits always has a hit, because two of its points are closer than
the ends of the interval are.
-/

namespace DocumentDb.Decimal

open Double (one divRound)

/-! ### The first digit -/

lemma length_bounds (n : Nat) :
    n < 10 ^ length n ∧ (n ≠ 0 → 0 < length n ∧ 10 ^ (length n - 1) ≤ n) := by
  rw [length]
  split
  · rename_i hzero
    exact ⟨by omega, fun hn => absurd hzero hn⟩
  · rename_i hn
    have hbounds := Text.length_toDigits_bounds hn
    exact ⟨hbounds.2, fun _ => ⟨Nat.length_toDigits_pos, hbounds.1⟩⟩

/-- The weight of the first digit is not above the quotient. -/
lemma leadingExponent_le {num den : Nat} (hnum : 0 < num) (hden : 0 < den) :
    10 ^ (leadingExponent num den).toNat * den ≤ num * 10 ^ (-leadingExponent num den).toNat := by
  rw [leadingExponent]
  split
  · rename_i hle
    have hquotient : num / den ≠ 0 := (Nat.div_pos hle hden).ne'
    obtain ⟨hlength, hbound⟩ := (length_bounds (num / den)).2 hquotient
    rw [show ((length (num / den) : Int) - 1).toNat = length (num / den) - 1 by omega,
      show (-((length (num / den) : Int) - 1)).toNat = 0 by omega, Nat.pow_zero, Nat.mul_one]
    exact (Nat.mul_le_mul_right den hbound).trans (Nat.div_mul_le_self num den)
  · -- the quotient of `den` and `num`, rounded up, is not above the power of ten
    have hbound := (length_bounds ((den + num - 1) / num - 1)).1
    have hceil : den ≤ num * ((den + num - 1) / num) := by
      have hsplit := Nat.div_add_mod (den + num - 1) num
      have hrest := Nat.mod_lt (den + num - 1) hnum
      omega
    rw [show (-(length ((den + num - 1) / num - 1) : Int)).toNat = 0 by omega, Int.neg_neg,
      Int.toNat_natCast, Nat.pow_zero, Nat.one_mul]
    exact hceil.trans (Nat.mul_le_mul_left num (by omega))

/-! ### Hits on a grid -/

variable {interval : Interval} {x : Double} {exponent lead : Int}

instance (interval : Interval) (num den : Nat) : Decidable (interval.Contains num den) :=
  inferInstanceAs (Decidable (if interval.closed then _ ∧ _ else _ ∧ _))

instance (decimal : Decimal) (interval : Interval) : Decidable (decimal.LiesIn interval) :=
  inferInstanceAs (Decidable (interval.Contains _ _))

/-- A hit is the nearest point of the grid, or else one of the two around the center, that lies in
the interval. -/
lemma onGrid?_eq :
    interval.onGrid? exponent =
      let center := interval.center * 10 ^ (-exponent).toNat
      let step := 4 * one * 10 ^ exponent.toNat
      let nearest := divRound center step
      let below := center / step
      if LiesIn ⟨nearest, exponent⟩ interval then some nearest
      else if LiesIn ⟨below, exponent⟩ interval then some below
      else if LiesIn ⟨below + 1, exponent⟩ interval then some (below + 1)
      else none := by
  simp only [Interval.onGrid?, LiesIn, Interval.Contains, divRound, Nat.pow_eq]
  cases interval.closed <;> simp

lemma liesIn_of_onGrid? {digits : Nat} (h : interval.onGrid? exponent = some digits) :
    LiesIn ⟨digits, exponent⟩ interval := by
  rw [onGrid?_eq] at h
  dsimp only at h
  split_ifs at h with hnearest hbelow habove <;> cases h <;> assumption

lemma isSome_onGrid? (h : LiesIn ⟨divRound (interval.center * 10 ^ (-exponent).toNat)
      (4 * one * 10 ^ exponent.toNat), exponent⟩ interval) :
    (interval.onGrid? exponent).isSome := by
  rw [onGrid?_eq]
  dsimp only
  rw [if_pos h]
  rfl

/-- The points of the grid are `10 ^ 16` times closer than the first digit weighs. -/
lemma step_le (hlead : 10 ^ lead.toNat * one ≤ x.magnitude * 10 ^ (-lead).toNat)
    (hexponent : exponent = lead - 16) :
    10 ^ 16 * (4 * one * 10 ^ exponent.toNat) ≤ 4 * x.magnitude * 10 ^ (-exponent).toNat := by
  have hpow : 10 ^ 16 * 10 ^ exponent.toNat * 10 ^ (-lead).toNat =
      10 ^ lead.toNat * 10 ^ (-exponent).toNat := by
    simp only [← Nat.pow_add]
    exact congrArg (10 ^ ·) (by omega)
  have hpos : 0 < 10 ^ (-lead).toNat := Nat.pow_pos (by decide)
  refine Nat.le_of_mul_le_mul_right ?_ hpos
  calc 10 ^ 16 * (4 * one * 10 ^ exponent.toNat) * 10 ^ (-lead).toNat
      = 4 * one * (10 ^ 16 * 10 ^ exponent.toNat * 10 ^ (-lead).toNat) := by ring
    _ = 4 * (10 ^ lead.toNat * one) * 10 ^ (-exponent).toNat := by rw [hpow]; ring
    _ ≤ 4 * (x.magnitude * 10 ^ (-lead).toNat) * 10 ^ (-exponent).toNat :=
      Nat.mul_le_mul_right _ (Nat.mul_le_mul_left _ hlead)
    _ = 4 * x.magnitude * 10 ^ (-exponent).toNat * 10 ^ (-lead).toNat := by ring

/-- On the grid of 17 digits the nearest point lies in the interval: it is nearer to the center than
the ends are. -/
lemma liesIn_nearest (hlead : 10 ^ lead.toNat * one ≤ x.magnitude * 10 ^ (-lead).toNat)
    (hexponent : exponent = lead - 16) :
    LiesIn ⟨divRound ((Interval.ofDouble x).center * 10 ^ (-exponent).toNat)
      (4 * one * 10 ^ exponent.toNat), exponent⟩ (.ofDouble x) := by
  have hmantissa := x.mantissa_lt_two_pow
  have hplace : 0 < 2 ^ x.exponent * 10 ^ (-exponent).toNat :=
    Nat.mul_pos (Nat.two_pow_pos _) (Nat.pow_pos (by decide))
  have hcenter : (Interval.ofDouble x).center * 10 ^ (-exponent).toNat =
      4 * (x.mantissa * (2 ^ x.exponent * 10 ^ (-exponent).toNat)) := by
    simp only [Interval.ofDouble, Double.magnitude_eq, Nat.mul_assoc]
  have hstep : 10 ^ 16 * (4 * one * 10 ^ exponent.toNat) ≤
      4 * (x.mantissa * (2 ^ x.exponent * 10 ^ (-exponent).toNat)) :=
    (step_le hlead hexponent).trans_eq hcenter
  have hstepPos : 0 < 4 * one * 10 ^ exponent.toNat :=
    Nat.mul_pos (by decide) (Nat.pow_pos (by decide))
  obtain ⟨hbelow, habove⟩ :=
    Double.divRound_near ((Interval.ofDouble x).center * 10 ^ (-exponent).toNat) hstepPos
  rw [hcenter] at hbelow habove
  have hmost : x.mantissa * (2 ^ x.exponent * 10 ^ (-exponent).toNat) ≤
      (2 ^ 53 - 1) * (2 ^ x.exponent * 10 ^ (-exponent).toNat) :=
    Nat.mul_le_mul_right _ (by omega)
  rw [LiesIn, hcenter]
  apply Interval.contains_of_lt
  · rw [Double.low_ofDouble]
    dsimp only
    split
    · rename_i hpower
      rw [hpower.1] at hstep hbelow habove ⊢
      rw [Nat.mul_assoc]
      omega
    · rw [Nat.mul_assoc, Nat.sub_mul, Nat.mul_assoc]
      omega
  · rw [Double.high_ofDouble]
    dsimp only
    rw [Nat.mul_assoc (4 * x.mantissa + 2), Nat.add_mul, Nat.mul_assoc 4 x.mantissa]
    omega

/-! ### The search -/

lemma liesIn_of_firstHit {fuel count : Nat} {decimal : Decimal}
    (h : firstHit interval lead fuel count = some decimal) : decimal.LiesIn interval := by
  induction fuel generalizing count with
  | zero => cases h
  | succ fuel ih =>
    simp only [firstHit] at h
    split at h
    · rename_i digits hdigits
      cases h
      exact liesIn_of_onGrid? hdigits
    · exact ih h

lemma isSome_firstHit {fuel count last : Nat} (hfirst : count ≤ last) (hlast : last < count + fuel)
    (h : (interval.onGrid? (lead - last + 1)).isSome) :
    (firstHit interval lead fuel count).isSome := by
  induction fuel generalizing count with
  | zero => omega
  | succ fuel ih =>
    rw [firstHit]
    split
    · rfl
    · rename_i hnone
      have hne : count ≠ last := by
        rintro rfl
        simp [hnone] at h
      exact ih (by omega) (by omega)

/-! ### Trailing zeros -/

lemma liesIn_trim {fuel : Nat} {decimal : Decimal} :
    (decimal.trim fuel).LiesIn interval ↔ decimal.LiesIn interval := by
  induction fuel generalizing decimal with
  | zero => rfl
  | succ fuel ih =>
    rw [trim]
    split
    · rename_i hzero
      rw [ih]
      have hdigits : decimal.digits = decimal.digits / 10 * 10 := by omega
      simp only [LiesIn]
      conv_rhs => rw [hdigits]
      by_cases hexponent : 0 ≤ decimal.exponent
      · rw [show (decimal.exponent + 1).toNat = decimal.exponent.toNat + 1 by omega,
          show (-(decimal.exponent + 1)).toNat = 0 by omega,
          show (-decimal.exponent).toNat = 0 by omega, Nat.pow_succ]
        ring_nf
      · rw [show (decimal.exponent + 1).toNat = 0 by omega,
          show decimal.exponent.toNat = 0 by omega,
          show (-decimal.exponent).toNat = (-(decimal.exponent + 1)).toNat + 1 by omega,
          Nat.pow_succ, ← Interval.contains_mul_right (c := 10) (by decide)]
        ring_nf
    · rfl

/-- The shortest decimal of a number lies in its interval. -/
lemma liesIn_shortest (hx : x.magnitude ≠ 0) : (shortest x).LiesIn (.ofDouble x) := by
  have hone : 0 < one := by decide
  have hlead := leadingExponent_le (Nat.pos_of_ne_zero hx) hone
  have hhit : (firstHit (.ofDouble x) (leadingExponent x.magnitude one) 17 1).isSome :=
    isSome_firstHit (show 1 ≤ 17 by decide) (by decide)
      (isSome_onGrid? (liesIn_nearest hlead (by omega)))
  obtain ⟨decimal, hdecimal⟩ := Option.isSome_iff_exists.mp hhit
  rw [shortest, if_neg hx, hdecimal]
  exact liesIn_trim.mpr (liesIn_of_firstHit hdecimal)

/-- The shortest decimal of a number is rounded to that number again. -/
theorem ofDecimal?_shortest (x : Double) :
    Double.ofDecimal? x.negative (shortest x).digits (shortest x).exponent = some x := by
  by_cases hx : x.mantissa = 0
  · have hexponent : x.exponent = 0 := by
      refine x.normal.resolve_right fun hnormal => ?_
      rw [hx] at hnormal
      exact absurd hnormal (by decide)
    rw [shortest, if_pos (Double.magnitude_eq_zero_iff.mpr hx)]
    exact congrArg some (Double.eq_of_fields rfl hx.symm hexponent.symm)
  · exact Double.ofDecimal?_of_liesIn hx
      (liesIn_shortest (mt Double.magnitude_eq_zero_iff.mp hx))

end DocumentDb.Decimal
