import DocumentDb.Number.Double

/-!
# Decimal text of binary64 numbers

The shortest decimal that reads back as a given number, found in exact integer arithmetic: for
1, 2, … 17 digits, the two neighbours of the number on the grid of decimals with that many digits
are tested, and the first grid with a hit wins. `Notation` then lays the digits out.
-/

namespace DocumentDb

/-- The decimal `digits * 10 ^ exponent`. -/
structure Decimal where
  digits : Nat
  exponent : Int
deriving DecidableEq

namespace Decimal

/-- The number of decimal digits; `0` has none. -/
def length (n : Nat) : Nat := if n = 0 then 0 else (Nat.toDigits 10 n).length

/-- The exponent `e` with `10 ^ e ≤ num / den < 10 ^ (e + 1)`, for a positive quotient. -/
def leadingExponent (num den : Nat) : Int :=
  if den ≤ num then (length (num / den) : Int) - 1
  else -(length ((den + num - 1) / num - 1) : Int)

/-- Move trailing zeros of the digits into the exponent; `fuel` bounds their number. -/
def trim : Nat → Decimal → Decimal
  | 0, d => d
  | fuel + 1, d =>
    if d.digits ≠ 0 ∧ d.digits % 10 = 0 then trim fuel ⟨d.digits / 10, d.exponent + 1⟩ else d

/-- What rounds to a positive magnitude, in quarters of the unit: `center` is the magnitude, and the
reals between `low` and `high` round to it, the ends included where `closed`. -/
structure Interval where
  low : Nat
  center : Nat
  high : Nat
  closed : Bool

/-- The interval that rounds to a number: half way to each neighbour. Below a power of two the
neighbour is half as far. -/
def Interval.ofDouble (x : Double) : Interval :=
  let center := 4 * x.magnitude
  let gap := 1 <<< x.exponent
  { low := center - if x.mantissa = 1 <<< 52 ∧ x.exponent ≠ 0 then gap else 2 * gap
    center
    high := center + 2 * gap
    closed := x.mantissa % 2 = 0 }

/-- The hit on the grid of multiples of `10 ^ exponent`: the neighbour of the center that lies in
the interval, the nearer of the two if both do, the even one at equal distance. -/
def Interval.onGrid? (interval : Interval) (exponent : Int) : Option Nat :=
  -- `step` and `factor` bring the grid and the interval to one unit
  let factor := Nat.pow 10 (-exponent).toNat
  let step := 4 * Double.one * Nat.pow 10 exponent.toNat
  let center := interval.center * factor
  let inside (candidate : Nat) : Bool :=
    let point := candidate * step
    let low := interval.low * factor
    let high := interval.high * factor
    if interval.closed then low ≤ point && point ≤ high else low < point && point < high
  let below := center / step
  let rest := 2 * (center % step)
  let nearest := if rest < step then below
    else if step < rest then below + 1
    else below + below % 2
  if inside nearest then some nearest
  else if inside below then some below
  else if inside (below + 1) then some (below + 1)
  else none

/-- The first hit among the grids of `count`, `count + 1`, … digits, for a number whose first digit
has the weight `10 ^ lead`; `fuel` bounds the number of grids. -/
def firstHit (interval : Interval) (lead : Int) : Nat → Nat → Option Decimal
  | 0, _ => none
  | fuel + 1, count =>
    let exponent := lead - (count : Int) + 1
    match interval.onGrid? exponent with
    | some digits => some ⟨digits, exponent⟩
    | none => firstHit interval lead fuel (count + 1)

/-- The shortest decimal that reads back as the magnitude of a number. -/
def shortest (x : Double) : Decimal :=
  if x.magnitude = 0 then ⟨0, 0⟩
  else
    match firstHit (.ofDouble x) (leadingExponent x.magnitude Double.one) 17 1 with
    | some decimal => decimal.trim 400
    | none => ⟨0, 0⟩

/-- The digit text. -/
def digitText (d : Decimal) : List Char := Nat.toDigits 10 d.digits

/-- The exponent of the first digit. -/
def scientificExponent (d : Decimal) : Int := (d.digitText.length : Int) - 1 + d.exponent

/-! ### Layout -/

/-- All digits in place, a point where there is a fraction; with `keepPoint` an integer ends in
`.0`. -/
def positional (keepPoint : Bool) (d : Decimal) : String :=
  let digits := d.digitText
  if 0 ≤ d.exponent then
    String.ofList (digits ++ List.replicate d.exponent.toNat '0') ++ if keepPoint then ".0" else ""
  else
    let places := (-d.exponent).toNat
    let padded := List.replicate (places + 1 - digits.length) '0' ++ digits
    String.ofList (padded.take (padded.length - places)) ++ "." ++
      String.ofList (padded.drop (padded.length - places))

/-- One digit, the others after a point, and the exponent with its sign after an `e`. -/
def scientific (d : Decimal) : String :=
  let exponent := d.scientificExponent
  let power := (if 0 ≤ exponent then "e+" else "e-") ++ toString exponent.natAbs
  match d.digitText with
  | [] => power
  | [first] => first.toString ++ power
  | first :: rest => first.toString ++ "." ++ String.ofList rest ++ power

end Decimal

namespace Double

/-- The sign of the text of a number. -/
def signText (x : Double) : String := if x.negative then "-" else ""

/-- The text of a number in JSON: positional with a fraction for exponents from -5 to 15, else
scientific. -/
def jsonText (x : Double) : String :=
  let decimal := Decimal.shortest x
  x.signText ++
    if -5 ≤ decimal.scientificExponent ∧ decimal.scientificExponent ≤ 15 then
      decimal.positional true
    else decimal.scientific

/-- The text of a number with every digit in place, however long. -/
def plainText (x : Double) : String := x.signText ++ (Decimal.shortest x).positional false

end Double

end DocumentDb
