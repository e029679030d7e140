import DocumentDb.Pattern.Flags

/-!
# Escapes

What follows a backslash: a character that stands for itself or for another one, a code point in
hexadecimal, a class of characters, a character property, or an assertion.
-/

namespace DocumentDb.Pattern

/-! ### Sets under flags -/

/-- The set with its case variants, where case is ignored. -/
def foldUnder (flags : Flags) (set : CharSet) : CharSet :=
  if !flags.ignoreCase then set
  else if flags.unicode then set.folded
  else .union set (.inter .ascii (CharSet.inter .ascii set).folded)

/-- The complement of a set, which has members outside ASCII. -/
def complementUnder (flags : Flags) (set : CharSet) : Outcome CharSet :=
  if flags.unicode then .ok set.complement else .error .outsideAscii

/-- The set or its complement, closed under case variants first. -/
def finishSet (flags : Flags) (negated : Bool) (set : CharSet) : Outcome CharSet :=
  if negated then complementUnder flags (foldUnder flags set) else .ok (foldUnder flags set)

/-! ### Code points -/

/-- What an escape stands for: a character, which may have been spelled as a byte, a set, or an
assertion. -/
inductive Escape
  | literal (c : Char) (byte : Bool)
  | set (chars : CharSet)
  | assertion (condition : Assertion)

/-- The hexadecimal digit of a character. -/
def hexDigit? (c : Char) : Option Nat := (Text.digit? c).filter (· < 16)

/-- The character of a code point. -/
def ofCodePoint (n : Nat) (byte : Bool) : Outcome Escape :=
  if n.isValidChar then .ok (.literal (Char.ofNat n) byte) else .error .invalidCodePoint

/-- Read a code point of so many hexadecimal digits. -/
def readHex (flags : Flags) : Nat → Nat → List Char → Outcome (Nat × List Char)
  | 0, value, cs => .ok (value, cs)
  | _ + 1, _, [] => .error .unfinishedEscape
  | count + 1, value, c :: cs =>
    match hexDigit? c with
    | some digit => readHex flags count (value * 16 + digit) (skip flags cs)
    | none => .error .invalidCodePoint

/-- What stands before a closing brace, and the rest behind the brace. -/
def readBraced (flags : Flags) (cs : List Char) : Outcome ((List Char) × List Char) :=
  match takeCounting flags (· != '\x7d') false cs with
  | (inside, _ :: rest) => .ok (inside, rest)
  | (_, []) => .error .unfinishedEscape

/-- Read a code point: digits in braces, or as many as given. -/
def readCodePoint (flags : Flags) (count : Nat) (cs : List Char) : Outcome (Escape × List Char) :=
  match skip flags cs with
  | '\x7b' :: cs => do
    let (inside, rest) ← readBraced flags cs
    match inside, Text.digits? 16 0 inside with
    | _ :: _, some n => return (← ofCodePoint n false, rest)
    | _, _ => .error .invalidCodePoint
  | cs => do
    let (n, rest) ← readHex flags count 0 cs
    return (← ofCodePoint n (count == 2), rest)

/-! ### Classes -/

/-- The set of a property: a name, or a name and a value between `=`, `:` or `!=`. The last excludes
the characters that have the value. -/
def propertySet (inside : List Char) : Outcome (Bool × CharSet) :=
  let valued (excluded : Bool) (name value : List Char) : Outcome (Bool × CharSet) :=
    match CharSet.valued? name value with
    | some set => .ok (excluded, set)
    | none => .error .unknownProperty
  let cutAt := fun separator => Text.cut? separator inside
  match cutAt '!' with
  | some (name, '=' :: value) => valued true name value
  | _ =>
    match cutAt ':' with
    | some (name, value) => valued false name value
    | none =>
      match cutAt '=' with
      | some (name, value) => valued false name value
      | none =>
        match CharSet.named? inside with
        | some set => .ok (false, set)
        | none => .error .unknownProperty

/-- Read the name of a property: one letter, or a name in braces. Its case variants are added before
it is negated. -/
def readProperty (flags : Flags) (negated : Bool) (cs : List Char) :
    Outcome (Escape × List Char) := do
  let (name, rest) ← match skip flags cs with
    | [] => .error .unfinishedEscape
    | '\x7b' :: cs => readBraced flags cs
    | c :: cs => .ok ([c], skip flags cs)
  if !flags.unicode then .error .outsideAscii
  else
    let (excluded, set) ← propertySet name
    return (.set (← finishSet flags (negated != excluded) set), rest)

/-- The class of a letter: digits, white space or word characters, or in upper case all others. -/
def letterClass? (flags : Flags) (letter : Char) : Option (Outcome CharSet) :=
  let digits := if flags.unicode then CharSet.digits else .asciiDigits
  let blanks := if flags.unicode then CharSet.blanks else .asciiBlanks
  let wordChars := if flags.unicode then CharSet.wordChars else .asciiWordChars
  match letter with
  | 'd' => some (.ok digits)
  | 's' => some (.ok blanks)
  | 'w' => some (.ok wordChars)
  | 'D' => some (complementUnder flags digits)
  | 'S' => some (complementUnder flags blanks)
  | 'W' => some (complementUnder flags wordChars)
  | _ => none

/-! ### Assertions -/

/-- The boundaries that have a name in braces. -/
def boundaryNames : List (String × WordBoundary) :=
  [("start", .start), ("end", .stop), ("start-half", .startHalf), ("end-half", .stopHalf)]

/-- Read what follows the escape of a word boundary: the name of a special one in braces, if a name
is there; a count is left for the repetition. -/
def readBoundary (flags : Flags) (cs : List Char) : Outcome (WordBoundary × List Char) :=
  match cs with
  | '\x7b' :: inner =>
    match skip flags inner, takeCounting flags (fun c => c.isAlpha || c == '-') false inner with
    | [], _ => .error .unfinishedEscape
    | _, ([], _) => .ok (.edge, cs)
    | _, (name, rest) =>
      match boundaryNames.lookup (String.ofList name), rest with
      | some boundary, '\x7d' :: rest => .ok (boundary, rest)
      | _, _ => .error .unknownEscape
  | _ => .ok (.edge, cs)

/-! ### All escapes -/

/-- The characters that a letter stands for. -/
def letterChars : List (Char × Char) :=
  [('a', '\x07'), ('f', '\x0c'), ('t', '\t'), ('n', '\n'), ('r', '\r'), ('v', '\x0b')]

/-- Whether a character may be escaped to stand for itself: all of ASCII but letters, digits and
angle brackets. -/
def isEscapable (c : Char) : Bool := c.toNat < 128 && !c.isAlphanum && c != '<' && c != '>'

/-- Read what follows a backslash. -/
def readEscape (flags : Flags) : List Char → Outcome (Escape × List Char)
  | [] => .error .unfinishedEscape
  | c :: cs =>
    let boundary (kind : WordBoundary) : Escape := .assertion (.word kind !flags.unicode)
    if Text.isDigit c then .error .backReference
    else if isEscapable c then .ok (.literal c false, cs)
    else
      match letterChars.lookup c, letterClass? flags c with
      | some c, _ => .ok (.literal c false, cs)
      | none, some set => set.map fun set => (.set set, cs)
      | none, none =>
        match c with
        | 'x' => readCodePoint flags 2 cs
        | 'u' => readCodePoint flags 4 cs
        | 'U' => readCodePoint flags 8 cs
        | 'p' => readProperty flags false cs
        | 'P' => readProperty flags true cs
        | 'A' => .ok (.assertion .textStart, cs)
        | 'z' => .ok (.assertion .textEnd, cs)
        | 'b' => (readBoundary flags cs).map fun read => (boundary read.1, read.2)
        | 'B' => .ok (boundary .noEdge, cs)
        | '<' => .ok (boundary .start, cs)
        | '>' => .ok (boundary .stop, cs)
        | _ => .error .unknownEscape

end DocumentDb.Pattern
