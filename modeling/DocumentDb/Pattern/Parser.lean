import DocumentDb.Pattern.Automaton.Growth
import DocumentDb.Pattern.Bracket

/-!
# Reading patterns

The reader goes through the text of a pattern once. It keeps the groups that are open, each with the
branches read so far, and the flags that hold at the place it has come to. A pattern is refused
where it is malformed, is written too deep, or takes automata that are too large.
-/

namespace DocumentDb.Pattern

/-! ### Counts -/

/-- Read a decimal number below `2 ^ 32` with white space around it. -/
def readDecimal (flags : Flags) (cs : List Char) : Outcome (Nat × List Char) :=
  let (digits, rest) := takeCounting flags Text.isDigit false (Text.trimLeft cs)
  if digits.isEmpty || 1 <<< 32 ≤ Text.ofDigits digits then .error .malformedCount
  else .ok (Text.ofDigits digits, Text.trimLeft rest)

/-- Read a count behind its brace: exactly, at least, or between. -/
def readCount (flags : Flags) (cs : List Char) : Outcome ((Nat × Option Nat) × List Char) := do
  let (least, rest) ← readDecimal flags cs
  match rest with
  | '\x7d' :: rest => .ok ((least, some least), rest)
  | ',' :: rest =>
    match skip flags rest with
    | '\x7d' :: rest => .ok ((least, none), rest)
    | rest => do
      match ← readDecimal flags rest with
      | (most, '\x7d' :: rest) =>
        if least ≤ most then .ok ((least, some most), rest) else .error .malformedCount
      | _ => .error .malformedCount
  | _ => .error .malformedCount

/-! ### Groups -/

/-- A part that was read: its pattern, how deep it is written, and whether it can be repeated, which
a setting of flags cannot. -/
structure Part where
  pattern : Pattern
  depth : Nat
  repeatable : Bool

namespace Part

/-- A part without parts. -/
def simple (pattern : Pattern) : Part := ⟨pattern, 0, true⟩

/-- The part that several make up; it is one level deeper, unless there is just one of them. -/
def ofList (put : List Pattern → Pattern) (parts : List Part) : Part :=
  match parts with
  | [single] => single
  | parts =>
    let depth := (parts.map (·.depth)).foldl max 0
    ⟨put (parts.map (·.pattern)), if parts.isEmpty then 0 else depth + 1, true⟩

end Part

/-- A group that is being read: its number if it has one, the flags to return to at its end, the
branches read, and the parts of the present branch, the last first. -/
structure OpenGroup where
  number : Option Nat
  outside : Flags
  branches : List Part
  parts : List Part

namespace OpenGroup

/-- The present branch. -/
def branch (group : OpenGroup) : Part := .ofList inOrder group.parts.reverse

/-- All that stands in the group. -/
def inside (group : OpenGroup) : Part := .ofList oneOf (group.branch :: group.branches).reverse

/-- The group as a part. -/
def part (group : OpenGroup) : Part :=
  let inside := group.inside
  let pattern := match group.number with
    | some number => .group number inside.pattern
    | none => inside.pattern
  ⟨pattern, inside.depth + 1, true⟩

end OpenGroup

/-- What has been read: the flags in force, how many groups have a number, the names of groups, and
the groups that are open, the innermost first. -/
structure ReadState where
  flags : Flags
  groups : Nat
  names : List (List Char)
  innermost : OpenGroup
  outer : List OpenGroup

namespace ReadState

/-- The state at the start. -/
def initial : ReadState := ⟨.initial, 0, [], ⟨none, .initial, [], []⟩, []⟩

/-- Add a part to the present branch. -/
def push (state : ReadState) (part : Part) : Outcome ReadState :=
  if maxDepth < part.depth then .error .tooDeep
  else
    .ok { state with innermost := { state.innermost with parts := part :: state.innermost.parts } }

/-- Open a group without a number under flags. -/
def enter (state : ReadState) (flags : Flags) : Outcome ReadState :=
  if maxDepth ≤ state.outer.length then .error .tooDeep
  else
    .ok { state with
      flags
      innermost := ⟨none, state.flags, [], []⟩
      outer := state.innermost :: state.outer }

/-- Open a group with a number. -/
def enterNumbered (state : ReadState) : Outcome ReadState := do
  let opened ← state.enter state.flags
  let number := state.groups + 1
  return { opened with
    groups := number
    innermost := { opened.innermost with number := some number } }

/-- Repeat the last part. -/
def repeatLast (state : ReadState) (least : Nat) (most : Option Nat) (greedy : Bool) :
    Outcome ReadState :=
  match state.innermost.parts with
  | part :: parts =>
    if !part.repeatable then .error .nothingToRepeat
    else
      let pattern := part.pattern.repeated least most (greedy != state.flags.lazy)
      { state with innermost := { state.innermost with parts } }.push
        ⟨pattern, part.depth + 1, true⟩
  | [] => .error .nothingToRepeat

end ReadState

/-- Whether a character may stand in the name of a group, first or later. -/
def isNameChar (first : Bool) (c : Char) : Bool :=
  if first then c == '_' || CharSet.alphabetic.contains c
  else c ∈ ['_', '.', '[', ']'] || CharSet.alphabetic.contains c || CharSet.numeric.contains c

/-- Open a group that has a name. -/
def enterNamed (state : ReadState) (cs : List Char) : Outcome (ReadState × List Char) :=
  match Text.cut? '>' cs with
  | some (name, rest) =>
    match name with
    | [] => .error .invalidGroupName
    | c :: cs =>
      if !isNameChar true c || !cs.all (isNameChar false) then .error .invalidGroupName
      else if name ∈ state.names then .error .repeatedGroupName
      else ({ state with names := name :: state.names }.enterNumbered).map (·, rest)
  | none => .error .invalidGroupName

/-- Read what follows the parenthesis that opens a group. -/
def openGroup (state : ReadState) (cs : List Char) : Outcome (ReadState × List Char) :=
  match skip state.flags cs with
  | '?' :: '=' :: _ | '?' :: '!' :: _ | '?' :: '<' :: '=' :: _ | '?' :: '<' :: '!' :: _ =>
    .error .lookAround
  | '?' :: 'P' :: '<' :: cs | '?' :: '<' :: cs => enterNamed state cs
  | '?' :: cs => do
    match ← readFlags [] state.flags cs with
    | ((flags, .colon), rest) => (state.enter flags).map (·, rest)
    | ((flags, .parenthesis), rest) => ({ state with flags }.push ⟨empty, 0, false⟩).map (·, rest)
  | cs => state.enterNumbered.map (·, cs)

/-- Close the innermost group. -/
def closeGroup (state : ReadState) : Outcome ReadState :=
  match state.outer with
  | [] => .error .unopenedGroup
  | enclosing :: outer =>
    { state with flags := state.innermost.outside, innermost := enclosing, outer }.push
      state.innermost.part

/-! ### Patterns -/

/-- A character as a pattern, with its case variants where case is ignored. -/
def ofChar (flags : Flags) (c : Char) : Pattern := ofSet (foldUnder flags (.single c))

/-- The pattern for any character: where `dotAll` is off, no end of a line. -/
def anyChar (flags : Flags) : Outcome Pattern :=
  if !flags.unicode then .error .outsideAscii
  else if flags.dotAll then .ok (ofSet .all)
  else
    let ends := if flags.carriageReturns then CharSet.ofLines ["a d"] else .single '\n'
    .ok (ofSet ends.complement)

/-- The pattern of an escape. A byte outside ASCII is no character. -/
def ofEscape (flags : Flags) : Escape → Outcome Pattern
  | .literal c byte =>
    if byte && !flags.unicode && 128 ≤ c.toNat then .error .outsideAscii
    else .ok (ofChar flags c)
  | .set set => .ok (ofSet set)
  | .assertion condition => .ok (.assertion condition)

/-- Whether the mark of a lazy repetition is missing, and the rest without it. -/
def readGreedy : List Char → Bool × List Char
  | '?' :: cs => (false, cs)
  | cs => (true, cs)

/-- Repeat the last part as a sign says, which the mark of a lazy repetition may follow. -/
def readRepetition (state : ReadState) (least : Nat) (most : Option Nat) (cs : List Char) :
    Outcome (ReadState × List Char) :=
  let (greedy, rest) := readGreedy cs
  (state.repeatLast least most greedy).map (·, rest)

/-- Read one item, repetition, group mark or branch mark. -/
def readStep (state : ReadState) (c : Char) (cs : List Char) : Outcome (ReadState × List Char) :=
  let flags := state.flags
  let push (pattern : Pattern) (rest : List Char) : Outcome (ReadState × List Char) :=
    (state.push (.simple pattern)).map (·, rest)
  match c with
  | '(' => openGroup state cs
  | ')' => (closeGroup state).map (·, cs)
  | '|' =>
    let group := state.innermost
    .ok ({ state with
      innermost := { group with branches := group.branch :: group.branches, parts := [] } }, cs)
  | '[' => do
    let (part, rest) ← readBracket flags cs
    return (← state.push ⟨ofSet part.set, part.depth, true⟩, rest)
  | '?' => readRepetition state 0 (some 1) cs
  | '*' => readRepetition state 0 none cs
  | '+' => readRepetition state 1 none cs
  | '\x7b' => do
    let ((least, most), rest) ← readCount flags (skip flags cs)
    readRepetition state least most (skip flags rest)
  | '\\' => do
    let (escape, rest) ← readEscape flags cs
    push (← ofEscape flags escape) rest
  | '.' => do push (← anyChar flags) cs
  | '^' =>
    push (.assertion (if flags.multiLine then .lineStart flags.carriageReturns else .textStart)) cs
  | '$' =>
    push (.assertion (if flags.multiLine then .lineEnd flags.carriageReturns else .textEnd)) cs
  | c => push (ofChar flags c) cs

/-- Read to the end of the text, where no group may be open. Each round reads at least one
character, and `fuel` is their number. -/
def readAll : (fuel : Nat) → ReadState → List Char → Outcome Part
  | fuel, state, cs =>
    match fuel, skip state.flags cs with
    | _, [] =>
      if state.outer.isEmpty then .ok state.innermost.inside else .error .unclosedGroup
    | 0, _ :: _ => .error .tooLarge
    | fuel + 1, c :: cs => do
      let (state, rest) ← readStep state c cs
      readAll fuel state rest

/-- The pattern that a text spells. -/
def parse (text : String) : Outcome Pattern := do
  let cs := text.toList
  let part ← readAll cs.length .initial cs
  if maxDepth < part.depth then .error .tooDeep
  else if !part.pattern.fits then .error .tooLarge
  else .ok part.pattern

end DocumentDb.Pattern
