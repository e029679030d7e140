/-!
# Text

White space in the sense of the Unicode property `White_Space`, trimming, splitting at a character,
and the reading of decimal digits. Everything works on the characters of a string, so that it can be
reasoned about by induction on a list.
-/

namespace DocumentDb.Text

/-- The characters with the property `White_Space`. -/
def isBlank (c : Char) : Bool :=
  let n := c.toNat
  (9 ≤ n && n ≤ 13) || n == 0x20 || n == 0x85 || n == 0xA0 || n == 0x1680 ||
    (0x2000 ≤ n && n ≤ 0x200A) || n == 0x2028 || n == 0x2029 || n == 0x202F || n == 0x205F ||
    n == 0x3000

/-- Leave out the white space in front. -/
def trimLeft (cs : List Char) : List Char := cs.dropWhile isBlank

/-- Leave out the white space at both ends. -/
def trim (cs : List Char) : List Char := (trimLeft (trimLeft cs).reverse).reverse

/-- `trim` on strings. -/
def trimmed (s : String) : String := String.ofList (trim s.toList)

/-- Whether a string starts with another. -/
def startsWith (s start : String) : Bool := start.toList.isPrefixOf s.toList

/-- What follows `start` in a string that starts with it. -/
def rest? (s start : String) : Option String :=
  if startsWith s start then some (String.ofList (s.toList.drop start.toList.length)) else none

/-- The parts between the occurrences of a character: one more than it occurs. -/
def splitChars (separator : Char) : List Char → List (List Char)
  | [] => [[]]
  | c :: cs =>
    if c = separator then [] :: splitChars separator cs
    else
      match splitChars separator cs with
      | [] => [[c]]
      | part :: parts => (c :: part) :: parts

theorem splitChars_ne_nil (separator : Char) (cs : List Char) : splitChars separator cs ≠ [] := by
  cases cs with
  | nil => simp [splitChars]
  | cons c cs =>
    rw [splitChars]
    split
    · simp
    · split <;> simp

/-- `splitChars` on strings. -/
def split (separator : Char) (s : String) : List String :=
  (splitChars separator s.toList).map String.ofList

/-- The part before the first occurrence of a character and the part after it. -/
def cut? (separator : Char) : List Char → Option (List Char × List Char)
  | [] => none
  | c :: cs =>
    if c = separator then some ([], cs)
    else (cut? separator cs).map fun parts => (c :: parts.1, parts.2)

/-- The value of a digit in a base up to 36; letters of either case count from ten. -/
def digit? (c : Char) : Option Nat :=
  let n := c.toNat
  if 48 ≤ n && n ≤ 57 then some (n - 48)
  else if 65 ≤ n && n ≤ 90 then some (n - 55)
  else if 97 ≤ n && n ≤ 122 then some (n - 87)
  else none

/-- The value of digits in a base, and none if one of them is no digit of the base. -/
def digits? (base : Nat) : Nat → List Char → Option Nat
  | value, [] => some value
  | value, c :: cs =>
    match digit? c with
    | some d => if d < base then digits? base (value * base + d) cs else none
    | none => none

/-- The value of decimal digits. -/
def ofDigits (cs : List Char) : Nat := cs.foldl (fun n c => n * 10 + (c.toNat - 48)) 0

/-- Whether a character is one of the ten ASCII digits. -/
def isDigit (c : Char) : Bool := '0' ≤ c && c ≤ '9'

/-- The value of a natural number below `2 ^ 64`: at least one decimal digit, which a `+` may
precede. -/
def natural? (s : String) : Option Nat :=
  let digits := match s.toList with
    | '+' :: cs => cs
    | cs => cs
  if digits.isEmpty || !digits.all isDigit then none
  else if ofDigits digits < 1 <<< 64 then some (ofDigits digits) else none

/-- The lower-case hexadecimal digits of a number, as many as asked for. -/
def hex (n : Nat) : Nat → List Char
  | 0 => []
  | width + 1 => hex (n / 16) width ++ [Nat.digitChar (n % 16)]

theorem length_hex (n width : Nat) : (hex n width).length = width := by
  induction width generalizing n with
  | zero => rfl
  | succ width ih => simp [hex, ih]

/-- The lower-case form of the ASCII letters. -/
def lower (s : String) : String := String.ofList (s.toList.map Char.toLower)

end DocumentDb.Text
