import DocumentDb.Json.Basic
import DocumentDb.Text.Basic

/-!
# Reading JSON text

A reader of a form takes the characters and answers with what it read and the characters left, or
with nothing where the text is malformed. The readers of values recurse on `fuel`, which
`readSpelled?` chooses larger than any text of the given length needs.

Integers outside 64 bits and all literals with a fraction or an exponent become binary64 numbers:
the leading digits that fit 64 bits are rounded first, then scaled by a power of ten and rounded
again. Digits beyond those count by their place only.
-/

namespace DocumentDb.Json

/-- How deep arrays and objects may nest. -/
def maxNesting : Nat := 127

/-- Leave out the white space in front: blanks, tabs and the ends of lines. -/
def skipSpace (cs : List Char) : List Char :=
  cs.dropWhile fun c => c == ' ' || c == '\t' || c == '\n' || c == '\r'

/-! ### Numbers -/

/-- Multiply by a power of ten that is a binary64 number, rounding. -/
def scaleUp? (x : Double) (power : Nat) : Option Double :=
  (Double.ofDecimal? false 1 power).bind x.mul?

/-- Divide by a power of ten that is a binary64 number, rounding. -/
def scaleDown? (x : Double) (power : Nat) : Option Double :=
  (Double.ofDecimal? false 1 power).bind x.div?

/-- Multiply a rounded significand by `10 ^ exponent`, rounding again. Powers below `10 ^ -308` take
two steps more at most; nothing where the result is beyond the finite numbers. -/
def scaled? (x : Double) (exponent : Int) : Option Double :=
  if x.magnitude = 0 then some x
  else if 0 ≤ exponent then
    if exponent ≤ 308 then scaleUp? x exponent.toNat else none
  else if -308 ≤ exponent then scaleDown? x (-exponent).toNat
  else
    (scaleDown? x 308).bind fun x =>
      if -616 ≤ exponent then scaleDown? x (-exponent - 308).toNat
      else some (Double.zero x.negative)

/-- Add digits to a significand while it fits 64 bits: the significand, how many digits were taken
and how many were left over. -/
def takeDigits : Nat → List Char → Nat × Nat × Nat
  | significand, [] => (significand, 0, 0)
  | significand, c :: cs =>
    let next := significand * 10 + (c.toNat - 48)
    if next < 1 <<< 64 then
      let (all, taken, left) := takeDigits next cs
      (all, taken + 1, left)
    else (significand, 0, cs.length + 1)

/-- The exponent after its mark: a sign and at least one digit. -/
def readExponent? (cs : List Char) : Option (Int × List Char) :=
  let (negative, cs) := match cs with
    | '+' :: cs => (false, cs)
    | '-' :: cs => (true, cs)
    | cs => (false, cs)
  let digits := cs.takeWhile Text.isDigit
  if digits.isEmpty then none
  else
    let magnitude : Int := Text.ofDigits digits
    some (if negative then -magnitude else magnitude, cs.dropWhile Text.isDigit)

/-- The spelling of a number: its sign, the digits before the point, those after it where there is a
point, and the exponent where there is one. -/
structure Spelling where
  negative : Bool
  whole : List Char
  fraction : Option (List Char)
  exponent : Option Int

/-- The spelling of a number: a sign, digits without a leading zero, a fraction, an exponent. -/
def readSpelling? (cs : List Char) : Option (Spelling × List Char) :=
  let (negative, cs) := match cs with
    | '-' :: cs => (true, cs)
    | cs => (false, cs)
  let whole := cs.takeWhile Text.isDigit
  let cs := cs.dropWhile Text.isDigit
  if whole.isEmpty || (whole.length != 1 && whole.head? == some '0') then none
  else
    let fraction? : Option (Option (List Char) × List Char) := match cs with
      | '.' :: cs =>
        let digits := cs.takeWhile Text.isDigit
        if digits.isEmpty then none else some (some digits, cs.dropWhile Text.isDigit)
      | cs => some (none, cs)
    fraction?.bind fun (fraction, cs) =>
      match cs with
      | 'e' :: cs | 'E' :: cs =>
        (readExponent? cs).map fun (n, cs) => (⟨negative, whole, fraction, some n⟩, cs)
      | cs => some (⟨negative, whole, fraction, none⟩, cs)

/-- The number of a spelling; nothing where it is beyond the finite numbers. -/
def Spelling.number? (spelling : Spelling) : Option Number :=
  let (leading, _, left) := takeDigits 0 spelling.whole
  match spelling.fraction, spelling.exponent, left with
  | none, none, 0 =>
    if spelling.negative && leading == 0 then some (.float (Double.zero true))
    else
      let n : Int := if spelling.negative then -leading else leading
      if n < Number.minInt then some (.float (Double.ofInt n)) else some (.ofInt n)
  | _, _, _ =>
    let (significand, taken, _) := takeDigits leading (spelling.fraction.getD [])
    let power : Int := (left : Int) - taken + spelling.exponent.getD 0
    (scaled? (Double.ofInt significand) power).map fun x =>
      .float (if spelling.negative then x.neg else x)

/-- A number. -/
def readNumber? (cs : List Char) : Option (Number × List Char) :=
  (readSpelling? cs).bind fun (spelling, cs) => spelling.number?.map (·, cs)

/-! ### Strings -/

/-- Four hexadecimal digits. -/
def readUnit? (cs : List Char) : Option (Nat × List Char) :=
  if (cs.take 4).length = 4 then (Text.digits? 16 0 (cs.take 4)).map (·, cs.drop 4) else none

/-- The character of a `\u` escape, whose second half may follow as another one. -/
def readEscapedUnit? (cs : List Char) : Option (Char × List Char) :=
  (readUnit? cs).bind fun (first, cs) =>
    if 0xD800 ≤ first ∧ first < 0xDC00 then
      match cs with
      | '\\' :: 'u' :: cs =>
        (readUnit? cs).bind fun (second, cs) =>
          if 0xDC00 ≤ second ∧ second < 0xE000 then
            some (Char.ofNat (0x10000 + (first - 0xD800) * 0x400 + (second - 0xDC00)), cs)
          else none
      | _ => none
    else if 0xDC00 ≤ first ∧ first < 0xE000 then none
    else some (Char.ofNat first, cs)

/-- The character of an escape, after the backslash. -/
def readEscape? : List Char → Option (Char × List Char)
  | '"' :: cs => some ('"', cs)
  | '\\' :: cs => some ('\\', cs)
  | '/' :: cs => some ('/', cs)
  | 'b' :: cs => some (Char.ofNat 8, cs)
  | 'f' :: cs => some (Char.ofNat 12, cs)
  | 'n' :: cs => some ('\n', cs)
  | 'r' :: cs => some ('\r', cs)
  | 't' :: cs => some ('\t', cs)
  | 'u' :: cs => readEscapedUnit? cs
  | _ => none

/-- The characters of a string literal after the opening quote. -/
def readChars? : Nat → List Char → Option (List Char × List Char)
  | 0, _ => none
  | _, [] => none
  | _ + 1, '"' :: cs => some ([], cs)
  | fuel + 1, '\\' :: cs =>
    (readEscape? cs).bind fun (c, cs) =>
      (readChars? fuel cs).map fun (read, cs) => (c :: read, cs)
  | fuel + 1, c :: cs =>
    if c.toNat < 32 then none
    else (readChars? fuel cs).map fun (read, cs) => (c :: read, cs)

/-- A string literal after the opening quote. -/
def readString? (cs : List Char) : Option (String × List Char) :=
  (readChars? (cs.length + 1) cs).map fun (read, cs) => (String.ofList read, cs)

/-! ### Values -/

/-- What follows a word that the characters start with. -/
def afterWord? (word : String) (cs : List Char) : Option (List Char) :=
  if word.toList.isPrefixOf cs then some (cs.drop word.toList.length) else none

mutual

/-- A value, with `nesting` levels of arrays and objects left. -/
def readValue? : Nat → Nat → List Char → Option (Json × List Char)
  | 0, _, _ => none
  | fuel + 1, nesting, cs =>
    match skipSpace cs with
    | '"' :: cs => (readString? cs).map fun (s, cs) => (.string s, cs)
    | '[' :: cs =>
      match nesting with
      | 0 => none
      | nesting + 1 =>
        match skipSpace cs with
        | ']' :: cs => some (.array [], cs)
        | cs => (readItems? fuel nesting cs).map fun (items, cs) => (.array items, cs)
    | '{' :: cs =>
      match nesting with
      | 0 => none
      | nesting + 1 =>
        match skipSpace cs with
        | '}' :: cs => some (.object [], cs)
        | cs => (readFields? fuel nesting cs).map fun (fields, cs) => (.object fields, cs)
    | 'n' :: cs => (afterWord? "ull" cs).map (.null, ·)
    | 't' :: cs => (afterWord? "rue" cs).map (.bool true, ·)
    | 'f' :: cs => (afterWord? "alse" cs).map (.bool false, ·)
    | cs => (readNumber? cs).map fun (n, cs) => (.number n, cs)

/-- The items of an array that has some, with the closing bracket. -/
def readItems? : Nat → Nat → List Char → Option (List Json × List Char)
  | 0, _, _ => none
  | fuel + 1, nesting, cs =>
    (readValue? fuel nesting cs).bind fun (item, cs) =>
      match skipSpace cs with
      | ']' :: cs => some ([item], cs)
      | ',' :: cs => (readItems? fuel nesting cs).map fun (items, cs) => (item :: items, cs)
      | _ => none

/-- The fields of an object that has some, with the closing brace. -/
def readFields? : Nat → Nat → List Char → Option (List (String × Json) × List Char)
  | 0, _, _ => none
  | fuel + 1, nesting, cs =>
    match skipSpace cs with
    | '"' :: cs =>
      (readString? cs).bind fun (key, cs) =>
        match skipSpace cs with
        | ':' :: cs =>
          (readValue? fuel nesting cs).bind fun (value, cs) =>
            match skipSpace cs with
            | '}' :: cs => some ([(key, value)], cs)
            | ',' :: cs =>
              (readFields? fuel nesting cs).map fun (fields, cs) => ((key, value) :: fields, cs)
            | _ => none
        | _ => none
    | _ => none

end

mutual

/-- The value in which a key that an object repeats keeps its first place and its last value. -/
def mergeRepeated : Json → Json
  | .array items => .array (mergeRepeatedItems items)
  | .object fields => .object (Fields.ofList (mergeRepeatedFields fields))
  | value => value

@[inherit_doc mergeRepeated]
def mergeRepeatedItems : List Json → List Json
  | [] => []
  | item :: items => mergeRepeated item :: mergeRepeatedItems items

@[inherit_doc mergeRepeated]
def mergeRepeatedFields : List (String × Json) → List (String × Json)
  | [] => []
  | (key, value) :: fields => (key, mergeRepeated value) :: mergeRepeatedFields fields

end

/-- The value that a text spells out, repeated keys included. -/
def readSpelled? (s : String) : Option Json :=
  let cs := s.toList
  match readValue? (2 * cs.length + 2) maxNesting cs with
  | some (value, rest) => if (skipSpace rest).isEmpty then some value else none
  | none => none

/-- The value of a text. -/
def read? (s : String) : Option Json := (readSpelled? s).map mergeRepeated

end DocumentDb.Json
