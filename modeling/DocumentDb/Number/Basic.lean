import DocumentDb.Number.Decimal

/-!
# Numbers of a document

A number is an integer that fits 64 bits, signed or unsigned, or a binary64 number. Which of the
two it is shows in its text only: all comparison is by the binary64 value.
-/

namespace DocumentDb

/-- A number: an integer kept exactly or a binary64 number. -/
inductive Number
  | int (value : Int) (inRange : -0x8000000000000000 ≤ value ∧ value < 0x10000000000000000)
  | float (value : Double)
deriving DecidableEq

namespace Number

/-- The smallest signed 64-bit integer. -/
def minInt : Int := -0x8000000000000000

/-- The largest signed 64-bit integer. -/
def maxInt : Int := 0x7FFFFFFFFFFFFFFF

/-- The nearest signed 64-bit integer. -/
def clamp (n : Int) : Int := max minInt (min maxInt n)

/-- The integer as a number, exactly where it fits. -/
def ofInt (n : Int) : Number :=
  if h : -0x8000000000000000 ≤ n ∧ n < 0x10000000000000000 then .int n h
  else .float (Double.ofInt n)

instance : Inhabited Number := ⟨ofInt 0⟩

/-- The binary64 value by which numbers compare. -/
def toDouble : Number → Double
  | .int n _ => Double.ofInt n
  | .float x => x

/-- The text of a number in JSON. -/
def jsonText : Number → String
  | .int n _ => toString n
  | .float x => x.jsonText

/-- The text of a number in a string: an integral float below `10 ^ 21` is written as the nearest
signed 64-bit integer, any other float with every digit in place. -/
def text : Number → String
  | .int n _ => toString n
  | .float x =>
    if x.isInteger && x.absLt 1000000000000000000000 then toString (clamp x.trunc)
    else x.plainText

/-- The integer of a number: a signed 64-bit integer as it is, anything else cut off at the point
after rounding to binary64 and brought into the signed range. -/
def toInt (n : Number) : Int :=
  match n with
  | .int value _ => if value ≤ maxInt then value else clamp n.toDouble.trunc
  | .float x => clamp x.trunc

end Number

end DocumentDb
