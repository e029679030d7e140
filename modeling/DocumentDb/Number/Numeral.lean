import DocumentDb.Number.Double
import DocumentDb.Text.Basic

/-!
# Decimal numerals

The reading of a numeral, correctly rounded: digits with or without a point, at least one of them,
and an exponent; beyond the finite numbers it is infinite. `readSigned?` also takes a sign and the
words for the values that are not finite.
-/

namespace DocumentDb.Numeral

/-- The exponent that follows its mark, up to the end of the text. -/
def exponent? (cs : List Char) : Option Int :=
  let (negative, digits) := match cs with
    | '+' :: cs => (false, cs)
    | '-' :: cs => (true, cs)
    | cs => (false, cs)
  if digits.isEmpty || !digits.all Text.isDigit then none
  else
    let magnitude : Int := Text.ofDigits digits
    some (if negative then -magnitude else magnitude)

/-- The value of a numeral without a sign. -/
def read? (negative : Bool) (cs : List Char) : Option Extended :=
  let whole := cs.takeWhile Text.isDigit
  let (fraction, cs) := match cs.dropWhile Text.isDigit with
    | '.' :: cs => (cs.takeWhile Text.isDigit, cs.dropWhile Text.isDigit)
    | cs => ([], cs)
  if whole.isEmpty && fraction.isEmpty then none
  else
    let value (exponent : Int) : Extended :=
      .ofRounded negative <|
        Double.ofDecimal? negative (Text.ofDigits (whole ++ fraction)) (exponent - fraction.length)
    match cs with
    | [] => some (value 0)
    | 'e' :: cs | 'E' :: cs => (exponent? cs).map value
    | _ => none

/-- The value of a numeral with or without a sign, or of one of the words `inf`, `infinity` and
`nan` in any case. -/
def readSigned? (cs : List Char) : Option Extended :=
  let (negative, cs) := match cs with
    | '+' :: cs => (false, cs)
    | '-' :: cs => (true, cs)
    | cs => (false, cs)
  match String.ofList (cs.map Char.toLower) with
  | "inf" | "infinity" => some (.infinite negative)
  | "nan" => some .notANumber
  | _ => read? negative cs

end DocumentDb.Numeral
