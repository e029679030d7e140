import DocumentDb.Pattern.Basic

/-!
# Flags

What may be wrong with the text of a pattern, the flags in force at a place of it, and what does not
count where the pattern is spaced: white space, and comments up to the ends of their lines.
-/

namespace DocumentDb.Pattern

/-- Why a text is no pattern. -/
inductive ParseError
  | unclosedGroup
  | unopenedGroup
  | unclosedClass
  | nothingToRepeat
  | malformedCount
  | lookAround
  | backReference
  | unknownEscape
  | unfinishedEscape
  | invalidCodePoint
  | invalidRange
  | malformedFlags
  | invalidGroupName
  | repeatedGroupName
  | unknownProperty
  | outsideAscii
  | tooDeep
  | tooLarge
deriving DecidableEq

/-- The outcome of reading. A part that was read comes with the characters left. -/
abbrev Outcome := Except ParseError

/-! ### Flags -/

/-- The flags in force. Without `unicode`, classes hold ASCII characters only; `lazy` swaps greedy
and lazy repetition. -/
structure Flags where
  ignoreCase : Bool
  multiLine : Bool
  dotAll : Bool
  unicode : Bool
  carriageReturns : Bool
  spaced : Bool
  lazy : Bool

namespace Flags

/-- The flags at the start. -/
def initial : Flags := ⟨false, false, false, true, false, false, false⟩

/-- Switch the flag of a letter. -/
def switch? (flags : Flags) (letter : Char) (value : Bool) : Option Flags :=
  match letter with
  | 'i' => some { flags with ignoreCase := value }
  | 'm' => some { flags with multiLine := value }
  | 's' => some { flags with dotAll := value }
  | 'u' => some { flags with unicode := value }
  | 'R' => some { flags with carriageReturns := value }
  | 'x' => some { flags with spaced := value }
  | 'U' => some { flags with lazy := value }
  | _ => none

end Flags

/-- What a list of flags ends with. -/
inductive FlagsEnd
  | colon
  | parenthesis
deriving DecidableEq

/-- Read the letters of a list of flags up to its end; those behind a `-` are switched off. No
letter may come twice, and the `-` may not come last. -/
def readFlags (seen : List Char) (flags : Flags) :
    List Char → Outcome ((Flags × FlagsEnd) × List Char)
  | [] => .error .malformedFlags
  | c :: cs =>
    if c = ':' || c = ')' then
      if seen.head? = some '-' then .error .malformedFlags
      else if c = ':' then .ok ((flags, .colon), cs)
      else if seen.isEmpty then .error .nothingToRepeat
      else .ok ((flags, .parenthesis), cs)
    else if c ∈ seen then .error .malformedFlags
    else if c = '-' then readFlags (c :: seen) flags cs
    else
      match flags.switch? c (!seen.contains '-') with
      | some flags => readFlags (c :: seen) flags cs
      | none => .error .malformedFlags

/-! ### Spaced patterns -/

/-- Leave out white space and comments. -/
def skipSpace (comment : Bool) : List Char → List Char
  | [] => []
  | c :: cs =>
    if comment then skipSpace (c != '\n') cs
    else if c = '#' then skipSpace true cs
    else if Text.isBlank c then skipSpace false cs
    else c :: cs

/-- Leave out what does not count where the pattern is spaced. -/
def skip (flags : Flags) (cs : List Char) : List Char :=
  if flags.spaced then skipSpace false cs else cs

/-- The characters in front that are accepted, and the rest. Where the pattern is spaced, what does
not count is left out between them and behind them. -/
def takeCounting (flags : Flags) (accepts : Char → Bool) (comment : Bool) :
    List Char → List Char × List Char
  | [] => ([], [])
  | c :: cs =>
    if comment then takeCounting flags accepts (c != '\n') cs
    else if flags.spaced && c = '#' then takeCounting flags accepts true cs
    else if flags.spaced && Text.isBlank c then takeCounting flags accepts false cs
    else if accepts c then
      let (taken, rest) := takeCounting flags accepts false cs
      (c :: taken, rest)
    else ([], c :: cs)

/-- The next character that counts, without reading it. In a spaced pattern white space is passed
over, and of a comment the sign in front only. -/
def peek? (flags : Flags) (cs : List Char) : Option Char :=
  if flags.spaced then
    let behindSign := match Text.trimLeft cs with
      | '#' :: comment => Text.trimLeft comment
      | cs => cs
    behindSign.head?.or cs.head?
  else cs.head?

end DocumentDb.Pattern
