import DocumentDb.Pattern.Class

/-!
# Patterns

A pattern describes texts: a text matches it where one of its occurrences is found. This module has
the type of patterns, what its assertions ask of a place in a text, and the ways to put patterns
together. These keep patterns in a simple form: no sequence holds another or two literals side by
side, no choice holds another or one of characters alone, and nothing is repeated exactly once.
-/

namespace DocumentDb

namespace Pattern

/-! ### Assertions -/

/-- A place in a text: the characters before and after it. -/
structure Place where
  before : Option Char
  after : Option Char

/-- What an assertion on words asks of the place between two characters. -/
inductive WordBoundary
  | edge
  | noEdge
  | start
  | stop
  | startHalf
  | stopHalf
deriving DecidableEq

/-- A condition on a place. Lines end at line feeds, or also at carriage returns, where the two
together are one end. Words consist of the word characters of ASCII, or of all scripts. -/
inductive Assertion
  | textStart
  | textEnd
  | lineStart (carriageReturns : Bool)
  | lineEnd (carriageReturns : Bool)
  | word (boundary : WordBoundary) (ascii : Bool)
deriving DecidableEq

/-- Whether a boundary lies between characters that are of a word or not. -/
def WordBoundary.holds (boundary : WordBoundary) (before after : Bool) : Bool :=
  match boundary with
  | edge => before != after
  | noEdge => before == after
  | start => !before && after
  | stop => before && !after
  | startHalf => !before
  | stopHalf => !after

/-- Whether an assertion holds at a place. -/
def Assertion.holds (place : Place) : Assertion → Bool
  | textStart => place.before.isNone
  | textEnd => place.after.isNone
  | lineStart carriageReturns =>
    place.before.isNone || place.before == some '\n' ||
      (carriageReturns && place.before == some '\r' && place.after != some '\n')
  | lineEnd carriageReturns =>
    place.after.isNone || (carriageReturns && place.after == some '\r') ||
      (place.after == some '\n' && !(carriageReturns && place.before == some '\r'))
  | word boundary ascii =>
    let chars := if ascii then CharSet.asciiWordChars else CharSet.wordChars
    boundary.holds (place.before.any chars.contains) (place.after.any chars.contains)

end Pattern

/-! ### Patterns -/

/-- A pattern. Groups are numbered from one. A repetition has no upper limit where `most` is none;
whether it is greedy decides which occurrence is preferred, not whether there is one. -/
inductive Pattern
  | literal (text : List Char)
  | chars (set : Pattern.CharSet)
  | assertion (condition : Pattern.Assertion)
  | group (number : Nat) (inner : Pattern)
  | sequence (parts : List Pattern)
  | choice (branches : List Pattern)
  | repetition (inner : Pattern) (least : Nat) (most : Option Nat) (greedy : Bool)
deriving BEq

namespace Pattern

/-- The pattern of the empty text. -/
def empty : Pattern := .sequence []

instance : Inhabited Pattern := ⟨empty⟩

/-! ### Measures -/

mutual

/-- Whether the pattern matches nothing but the empty text. -/
def matchesEmptyOnly : Pattern → Bool
  | .literal text => text.isEmpty
  | .chars _ => false
  | .assertion _ => true
  | .group _ inner | .repetition inner _ _ _ => inner.matchesEmptyOnly
  | .sequence parts => allMatchEmptyOnly parts
  | .choice branches => allMatchEmptyOnly branches

/-- Whether some patterns match nothing but the empty text. -/
def allMatchEmptyOnly : List Pattern → Bool
  | [] => true
  | pattern :: patterns => pattern.matchesEmptyOnly && allMatchEmptyOnly patterns

end

mutual

/-- The least length of an occurrence; none where a part of the pattern has no occurrence. -/
def shortest? : Pattern → Option Nat
  | .literal text => some text.length
  | .chars set => if set.spans.isEmpty then none else some 1
  | .assertion _ => some 0
  | .group _ inner => inner.shortest?
  | .sequence parts => shortestTogether? parts
  | .choice branches => shortestAmong? branches
  | .repetition inner least _ _ => inner.shortest?.map (· * least)

/-- The least length of occurrences that follow each other. -/
def shortestTogether? : List Pattern → Option Nat
  | [] => some 0
  | part :: parts =>
    match part.shortest?, shortestTogether? parts with
    | some first, some rest => some (first + rest)
    | _, _ => none

/-- The least length of an occurrence of one of some patterns. -/
def shortestAmong? : List Pattern → Option Nat
  | [] => none
  | [branch] => branch.shortest?
  | branch :: branches =>
    match branch.shortest?, shortestAmong? branches with
    | some first, some rest => some (min first rest)
    | _, _ => none

end

mutual

/-- The number of nodes of the pattern. -/
def nodes : Pattern → Nat
  | .literal _ | .chars _ | .assertion _ => 1
  | .group _ inner | .repetition inner _ _ _ => inner.nodes + 1
  | .sequence parts | .choice parts => nodesTogether parts + 1

/-- The number of nodes of some patterns. -/
def nodesTogether : List Pattern → Nat
  | [] => 0
  | pattern :: patterns => pattern.nodes + nodesTogether patterns

end

/-! ### Construction -/

/-- A character of a set. A set of one character makes a literal. -/
def ofSet (set : CharSet) : Pattern :=
  match set.single? with
  | some c => .literal [c]
  | none => .chars set

/-- Repetition. What matches the empty text alone need not be repeated. -/
def repeated (inner : Pattern) (least : Nat) (most : Option Nat) (greedy : Bool) : Pattern :=
  let (least, most) :=
    if inner.matchesEmptyOnly then (min least 1, some ((most.map (min · 1)).getD 1))
    else (least, most)
  if least = 0 && most = some 0 then empty
  else if least = 1 && most = some 1 then inner
  else .repetition inner least most greedy

/-- Put a pattern in front of others; literals side by side become one. -/
def consLiteral (part : Pattern) (parts : List Pattern) : List Pattern :=
  match part, parts with
  | .literal first, .literal second :: parts => .literal (first ++ second) :: parts
  | part, parts => part :: parts

/-- Patterns one after the other. -/
def inOrder (parts : List Pattern) : Pattern :=
  let flat := parts.flatMap fun part => match part with
    | .sequence inner => inner
    | part => [part]
  match flat.foldr consLiteral [] with
  | [single] => single
  | parts => .sequence parts

/-- The parts of some patterns that are all sequences. -/
def partsOfAll? : List Pattern → Option (List (List Pattern))
  | [] => some []
  | .sequence parts :: patterns => (partsOfAll? patterns).map (parts :: ·)
  | _ => none

/-- The characters of patterns that are all literals of one character. -/
def charsOfLiterals? : List Pattern → Option (List Span)
  | [] => some []
  | .literal [c] :: patterns => (charsOfLiterals? patterns).map (⟨c.toNat, c.toNat⟩ :: ·)
  | _ => none

/-- The characters of patterns that are all sets of characters. -/
def charsOfSets? : List Pattern → Option (List Span)
  | [] => some []
  | .chars set :: patterns => (charsOfSets? patterns).map (set.spans ++ ·)
  | _ => none

/-- The patterns that two lists start with. -/
def commonFront : List Pattern → List Pattern → List Pattern
  | first :: firsts, second :: seconds =>
    if first == second then first :: commonFront firsts seconds else []
  | _, _ => []

/-- The branches of patterns, of which choices have several. -/
def flattened (branches : List Pattern) : List Pattern :=
  branches.flatMap fun branch => match branch with
    | .choice inner => inner
    | branch => [branch]

/-- The choice between patterns that are no choices. Characters become one set, and what all
branches start with comes out in front, in as many rounds as `fuel` has. -/
def choose : Nat → List Pattern → Pattern
  | _, [] => .chars .empty
  | _, [single] => single
  | fuel, branches =>
    match charsOfLiterals? branches, charsOfSets? branches with
    | some spans, _ | none, some spans => ofSet (.ofSpans spans)
    | none, none =>
      match fuel, partsOfAll? branches with
      | fuel + 1, some (first :: rest) =>
        match rest.foldl commonFront first with
        | [] => .choice branches
        | front =>
          let remaining := (first :: rest).map fun parts => inOrder (parts.drop front.length)
          inOrder (front ++ [choose fuel (flattened remaining)])
      | _, _ => .choice branches

/-- One of some patterns. Each round of `choose` leaves fewer nodes. -/
def oneOf (branches : List Pattern) : Pattern :=
  let branches := flattened branches
  choose (nodesTogether branches) branches

end Pattern

end DocumentDb
