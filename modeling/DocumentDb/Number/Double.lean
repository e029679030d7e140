/-!
# Binary64 numbers

A `Double` is a finite binary64 number: a sign and a magnitude `mantissa · 2 ^ exponent`, counted in
units of `2 ^ -1074`, the spacing of the smallest numbers. All comparison and rounding is exact
arithmetic on these integers. `Extended` adds the infinities and the value that is not a number.

Rounding to nearest is `Double.ofUnits?`; that its result is again in the one spelling of its
magnitude is what `shiftRight_scale_lt` and `scale_eq_zero_or` are for.
-/

namespace DocumentDb

/-- A finite binary64 number of magnitude `mantissa * 2 ^ exponent` units of `2 ^ -1074`. Below
`2 ^ 52` the mantissa has exponent `0`, so that each magnitude has one spelling. -/
structure Double where
  negative : Bool
  mantissa : Nat
  exponent : Nat
  mantissa_lt : mantissa < 1 <<< 53
  exponent_le : exponent ≤ 2045
  normal : exponent = 0 ∨ 1 <<< 52 ≤ mantissa
deriving DecidableEq

namespace Double

/-- How many units of `2 ^ -1074` make one. -/
def one : Nat := 1 <<< 1074

/-- The magnitude in units of `2 ^ -1074`. -/
def magnitude (x : Double) : Nat := x.mantissa <<< x.exponent

/-- The value in units of `2 ^ -1074`. -/
def units (x : Double) : Int := if x.negative then -(x.magnitude : Int) else x.magnitude

/-- Zero with a sign. -/
def zero (negative : Bool) : Double := ⟨negative, 0, 0, by decide, by decide, .inl rfl⟩

instance : Inhabited Double := ⟨zero false⟩

/-- The finite number of greatest magnitude. -/
def largest (negative : Bool) : Double :=
  ⟨negative, 1 <<< 53 - 1, 2045, by decide, by decide, .inr (by decide)⟩

/-- The number with the sign turned. -/
def neg (x : Double) : Double := { x with negative := !x.negative }

/-! ### Comparison -/

/-- Numeric equality: the two zeros are equal. -/
def numericEq (x y : Double) : Bool := x.units == y.units

/-- Numeric order: the two zeros are equal. -/
def compare (x y : Double) : Ordering := Ord.compare x.units y.units

/-- The total order that puts `-0.0` just below `0.0` and agrees with the numeric order elsewhere.
-/
def totalCompare (x y : Double) : Ordering :=
  (Ord.compare x.units y.units).then (Ord.compare y.negative x.negative)

/-! ### Rounding to nearest, ties to even -/

/-- The integer nearest to `num / den`; half way between two, the even one. -/
def divRound (num den : Nat) : Nat :=
  let quotient := num / den
  let rest := 2 * (num % den)
  if rest < den then quotient
  else if den < rest then quotient + 1
  else quotient + quotient % 2

theorem divRound_eq_or (num den : Nat) :
    divRound num den = num / den ∨ divRound num den = num / den + 1 := by
  simp only [divRound]
  split
  · exact .inl rfl
  · split
    · exact .inr rfl
    · rcases Nat.mod_two_eq_zero_or_one (num / den) with h | h <;> simp [h]

/-- The exponent at which a magnitude of `quotient` units has 53 binary digits, or `0`. -/
def scale (quotient : Nat) : Nat := quotient.log2 - 52

theorem shiftRight_scale_lt (quotient : Nat) : quotient >>> scale quotient < 1 <<< 53 := by
  rw [Nat.shiftRight_eq_div_pow, Nat.one_shiftLeft,
    Nat.div_lt_iff_lt_mul (Nat.two_pow_pos _), ← Nat.pow_add]
  have h : quotient < 2 ^ (quotient.log2 + 1) := Nat.lt_log2_self
  refine Nat.lt_of_lt_of_le h (Nat.pow_le_pow_right (by decide) ?_)
  simp only [scale]
  omega

theorem scale_eq_zero_or (quotient : Nat) :
    scale quotient = 0 ∨ 1 <<< 52 ≤ quotient >>> scale quotient := by
  by_cases h : scale quotient = 0
  · exact .inl h
  · right
    rw [Nat.shiftRight_eq_div_pow, Nat.one_shiftLeft,
      Nat.le_div_iff_mul_le (Nat.two_pow_pos _), ← Nat.pow_add]
    have hq : quotient ≠ 0 := by
      rintro rfl
      simp [scale] at h
    have hl : 52 + scale quotient = quotient.log2 := by
      simp only [scale] at h ⊢
      omega
    rw [hl]
    exact Nat.log2_self_le hq

theorem div_shiftRight (num den exponent : Nat) :
    (num / den) >>> exponent = num / (den <<< exponent) := by
  rw [Nat.shiftRight_eq_div_pow, Nat.shiftLeft_eq, Nat.div_div_eq_div_mul]

/-- The number nearest to `num / den` units; none where that is beyond the finite numbers. -/
def ofUnits? (negative : Bool) (num den : Nat) : Option Double :=
  let exponent := scale (num / den)
  let mantissa := divRound num (den <<< exponent)
  if carry : mantissa = 1 <<< 53 then
    if small : exponent + 1 ≤ 2045 then
      some ⟨negative, 1 <<< 52, exponent + 1, by decide, small, .inr (Nat.le_refl _)⟩
    else none
  else
    if small : exponent ≤ 2045 then
      some
        { negative, mantissa, exponent
          mantissa_lt := by
            have hlt := shiftRight_scale_lt (num / den)
            rw [div_shiftRight] at hlt
            have hor := divRound_eq_or num (den <<< exponent)
            have hne : divRound num (den <<< exponent) ≠ 1 <<< 53 := carry
            show divRound num (den <<< exponent) < 1 <<< 53
            simp only [exponent] at hor hne ⊢
            omega
          exponent_le := small
          normal := by
            rcases scale_eq_zero_or (num / den) with h | h
            · exact .inl h
            · right
              rw [div_shiftRight] at h
              have hor := divRound_eq_or num (den <<< exponent)
              show 1 <<< 52 ≤ divRound num (den <<< exponent)
              simp only [exponent] at hor ⊢
              omega }
    else none

/-- The number nearest to an integer; beyond the finite numbers, the largest of them. -/
def ofInt (n : Int) : Double :=
  (ofUnits? (n < 0) (n.natAbs * one) 1).getD (largest (n < 0))

/-- The number nearest to `digits · 10 ^ exponent`; none where that is beyond the finite numbers.
The first two tests spare the powers of ten that could not matter. -/
def ofDecimal? (negative : Bool) (digits : Nat) (exponent : Int) : Option Double :=
  if digits = 0 then some (zero negative)
  else
    let length : Int := (Nat.toDigits 10 digits).length
    if length + exponent > 400 then none
    else if length + exponent < -400 then some (zero negative)
    else ofUnits? negative (digits * Nat.pow 10 exponent.toNat * one) (Nat.pow 10 (-exponent).toNat)

/-! ### Arithmetic -/

/-- The product, rounded to nearest. -/
def mul? (x y : Double) : Option Double :=
  ofUnits? (x.negative != y.negative) (x.magnitude * y.magnitude) one

/-- The quotient by a nonzero number, rounded to nearest. -/
def div? (x y : Double) : Option Double :=
  ofUnits? (x.negative != y.negative) (x.magnitude * one) y.magnitude

/-- The integer part: the value with its fraction cut off. -/
def trunc (x : Double) : Int :=
  let whole : Int := (x.magnitude / one : Nat)
  if x.negative then -whole else whole

/-- Whether the value is an integer. -/
def isInteger (x : Double) : Bool := x.magnitude % one == 0

/-- Whether the absolute value is below a natural number. -/
def absLt (x : Double) (bound : Nat) : Bool := x.magnitude < bound * one

/-- Whether the remainder of `x / divisor`, with the sign of `x`, equals `rest`. Division by zero
has no remainder. -/
def hasRemainder (x divisor rest : Double) : Bool :=
  divisor.units != 0 && x.units.tmod divisor.units == rest.units

end Double

/-- The result of a numeric conversion: a finite number, an infinity or not a number. -/
inductive Extended
  | finite (value : Double)
  | infinite (negative : Bool)
  | notANumber
deriving DecidableEq

namespace Extended

/-- Numeric order; what is not a number is comparable to nothing, itself included. -/
def compare? : Extended → Extended → Option Ordering
  | .notANumber, _ | _, .notANumber => none
  | .finite x, .finite y => some (x.compare y)
  | .infinite a, .infinite b => some (Ord.compare b a)
  | .finite _, .infinite negative => some (if negative then .gt else .lt)
  | .infinite negative, .finite _ => some (if negative then .lt else .gt)

/-- Numeric equality; what is not a number equals nothing, itself included. -/
def numericEq (x y : Extended) : Bool := x.compare? y == some .eq

/-- A finite number if there is one, else the infinity of the sign. -/
def ofRounded (negative : Bool) : Option Double → Extended
  | some value => .finite value
  | none => .infinite negative

end Extended

end DocumentDb
