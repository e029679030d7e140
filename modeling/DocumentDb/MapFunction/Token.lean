import DocumentDb.Number.Numeral

/-!
# Tokens of map functions

`Token.scan` splits a source into words, string literals, number literals and punctuation. White
space and comments separate tokens; words and numbers are taken as long as possible, and of the
punctuation that fits the longest is taken.
-/

namespace DocumentDb.MapFunction

/-- The punctuation of the language. -/
inductive Punct
  | strictEq
  | strictNe
  | looseEq
  | looseNe
  | lessEq
  | greaterEq
  | and
  | or
  | arrow
  | openParen
  | closeParen
  | openBrace
  | closeBrace
  | openBracket
  | closeBracket
  | comma
  | semicolon
  | dot
  | not
  | less
  | greater
  | colon
deriving DecidableEq

namespace Punct

/-- How the punctuation is written. -/
def spelling : Punct → String
  | strictEq => "==="
  | strictNe => "!=="
  | looseEq => "=="
  | looseNe => "!="
  | lessEq => "<="
  | greaterEq => ">="
  | and => "&&"
  | or => "||"
  | arrow => "=>"
  | openParen => "("
  | closeParen => ")"
  | openBrace => "\x7b"
  | closeBrace => "\x7d"
  | openBracket => "["
  | closeBracket => "]"
  | comma => ","
  | semicolon => ";"
  | dot => "."
  | not => "!"
  | less => "<"
  | greater => ">"
  | colon => ":"

/-- All punctuation, longer spellings before their beginnings. -/
def all : List Punct :=
  [strictEq, strictNe, looseEq, looseNe, lessEq, greaterEq, and, or, arrow,
    openParen, closeParen, openBrace, closeBrace, openBracket, closeBracket,
    comma, semicolon, dot, not, less, greater, colon]

/-- The longest punctuation that the characters start with. -/
def first? (cs : List Char) : Option Punct :=
  all.find? fun p => p.spelling.toList.isPrefixOf cs

end Punct

/-- A token of the source of a map function. -/
inductive Token
  | word (name : String)
  | string (value : String)
  | number (value : Extended)
  | punct (mark : Punct)
deriving DecidableEq

/-- What makes a source impossible to split into tokens. -/
inductive LexicalError
  | badNumber (literal : String)
  | unterminatedString
  | unexpectedCharacter (c : Char)
deriving DecidableEq

/-- The wording of the error. -/
def LexicalError.message : LexicalError → String
  | badNumber literal => "bad number literal " ++ literal
  | unterminatedString => "unterminated string literal"
  | unexpectedCharacter c => "unexpected character '" ++ c.toString ++ "'"

namespace Token

/-- Whether a character can start a word. -/
def startsWord (c : Char) : Bool := c.isAlpha || c == '_' || c == '$'

/-- Whether a character can stand in a word. -/
def inWord (c : Char) : Bool := c.isAlphanum || c == '_' || c == '$'

/-- Whether a character can stand in a number after its first. -/
def inNumber (c : Char) : Bool := Text.isDigit c || c == '.' || c == 'e' || c == 'E'

/-- Whether a number starts here: a digit, or a minus sign with a digit behind it. -/
def startsNumber (c : Char) (rest : List Char) : Bool :=
  Text.isDigit c || (c == '-' && rest.head?.any Text.isDigit)

/-- What follows a block comment after its opening; one that is never closed runs to the end. -/
def afterBlockComment : List Char → List Char
  | '*' :: '/' :: rest => rest
  | _ :: rest => afterBlockComment rest
  | [] => []

/-- What follows a comment after its slash: a line comment ends before the end of the line. -/
def afterComment? : List Char → Option (List Char)
  | '/' :: rest => some (rest.dropWhile (· != '\n'))
  | '*' :: rest => some (afterBlockComment rest)
  | _ => none

/-- The character that an escape in a string literal stands for. -/
def unescape : Char → Char
  | 'n' => '\n'
  | 't' => '\t'
  | 'r' => '\r'
  | c => c

/-- The value of a string literal after its opening quote, and what follows its closing one. -/
def quoted? (quote : Char) : List Char → Option (List Char × List Char)
  | [] => none
  | c :: rest =>
    if c = quote then some ([], rest)
    else if c = '\\' then
      match rest with
      | [] => none
      | e :: rest => (quoted? quote rest).map fun (value, rest) => (unescape e :: value, rest)
    else (quoted? quote rest).map fun (value, rest) => (c :: value, rest)

/-! ### Every step leaves fewer characters -/

theorem length_dropWhile_le (p : Char → Bool) (cs : List Char) :
    (cs.dropWhile p).length ≤ cs.length :=
  (List.dropWhile_sublist p).length_le

theorem length_afterBlockComment_le (cs : List Char) :
    (afterBlockComment cs).length ≤ cs.length := by
  fun_induction afterBlockComment cs with
  | case1 rest => simp only [List.length_cons]; omega
  | case2 c rest _ ih => simp only [List.length_cons]; omega
  | case3 => exact Nat.le_refl _

theorem length_afterComment?_le {cs rest : List Char} (h : afterComment? cs = some rest) :
    rest.length ≤ cs.length := by
  simp only [afterComment?] at h
  split at h
  · rename_i tail
    have := length_dropWhile_le (· != '\n') tail
    cases h
    simp only [List.length_cons]; omega
  · rename_i tail
    have := length_afterBlockComment_le tail
    cases h
    simp only [List.length_cons]; omega
  · cases h

theorem length_quoted?_lt {quote : Char} {cs value rest : List Char}
    (h : quoted? quote cs = some (value, rest)) : rest.length < cs.length := by
  fun_induction quoted? quote cs generalizing value with
  | case1 => cases h
  | case2 tail => cases h; simp
  | case3 => cases h
  | case4 e tail _ ih =>
    simp only [Option.map_eq_some_iff, Prod.mk.injEq, Prod.exists] at h
    obtain ⟨v, r, hv, -, rfl⟩ := h
    have := ih hv
    simp only [List.length_cons]; omega
  | case5 c tail _ _ ih =>
    simp only [Option.map_eq_some_iff, Prod.mk.injEq, Prod.exists] at h
    obtain ⟨v, r, hv, -, rfl⟩ := h
    have := ih hv
    simp only [List.length_cons]; omega

theorem length_drop_spelling_lt (p : Punct) {cs : List Char} (h : cs ≠ []) :
    (cs.drop p.spelling.toList.length).length < cs.length := by
  have hp : 0 < p.spelling.toList.length := by cases p <;> decide
  have hc : 0 < cs.length := List.length_pos_iff.2 h
  rw [List.length_drop]
  omega

/-- The tokens of a source. -/
def scan : List Char → Except LexicalError (List Token)
  | [] => .ok []
  | c :: rest =>
    if Text.isBlank c then scan rest
    else
      match _comment : if c = '/' then afterComment? rest else none with
      | some rest' => scan rest'
      | none =>
        if startsWord c then
          (scan (rest.dropWhile inWord)).map
            (.word (String.ofList (c :: rest.takeWhile inWord)) :: ·)
        else if startsNumber c rest then
          let literal := c :: rest.takeWhile inNumber
          match Numeral.readSigned? literal with
          | some value => (scan (rest.dropWhile inNumber)).map (.number value :: ·)
          | none => .error (.badNumber (String.ofList literal))
        else if c = '"' ∨ c = '\'' then
          match _literal : quoted? c rest with
          | some (value, rest') => (scan rest').map (.string (String.ofList value) :: ·)
          | none => .error .unterminatedString
        else
          match Punct.first? (c :: rest) with
          | some p => (scan ((c :: rest).drop p.spelling.toList.length)).map (.punct p :: ·)
          | none => .error (.unexpectedCharacter c)
termination_by cs => cs.length
decreasing_by
  · simp
  · have h : afterComment? rest = some rest' := by
      split at _comment
      · exact _comment
      · cases _comment
    have := length_afterComment?_le h
    simp only [List.length_cons]; omega
  · have := length_dropWhile_le inWord rest
    simp only [List.length_cons]; omega
  · have := length_dropWhile_le inNumber rest
    simp only [List.length_cons]; omega
  · have := length_quoted?_lt _literal
    simp only [List.length_cons]; omega
  · exact length_drop_spelling_lt p (by simp)

end Token

end DocumentDb.MapFunction
