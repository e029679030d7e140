import DocumentDb.Pattern.Automaton.CharSet
import DocumentDb.Pattern.Automaton.WordTree
import DocumentDb.Pattern.Basic

/-!
# Automata for patterns

The automaton for a pattern is put together from those for its parts, with repetitions written out:
`a{3}` takes three times what `a` takes. Its size decides whether the pattern is accepted.
-/

namespace DocumentDb.Pattern

/-! ### Anchors -/

mutual

/-- Whether every occurrence starts at the start of the text, or, seen backwards, at its end. -/
def isAnchored (direction : Direction) : Pattern → Bool
  | .literal _ | .chars _ => false
  | .assertion condition =>
    match direction with
    | .forwards => condition = .textStart
    | .backwards => condition = .textEnd
  | .group _ inner => isAnchored direction inner
  | .sequence parts =>
    match direction with
    | .forwards => startsAnchored parts
    | .backwards => endsAnchored parts
  | .choice branches => !branches.isEmpty && allAnchored direction branches
  | .repetition inner least _ _ => 0 < least && isAnchored direction inner

/-- Whether an anchor is in front of all parts that take characters. -/
def startsAnchored : List Pattern → Bool
  | [] => false
  | part :: parts =>
    isAnchored .forwards part || (part.matchesEmptyOnly && startsAnchored parts)

/-- Whether an anchor is behind all parts that take characters. -/
def endsAnchored : List Pattern → Bool
  | [] => false
  | part :: parts =>
    endsAnchored parts || (allMatchEmptyOnly parts && isAnchored .backwards part)

/-- Whether all of some patterns are anchored. -/
def allAnchored (direction : Direction) : List Pattern → Bool
  | [] => true
  | branch :: branches => isAnchored direction branch && allAnchored direction branches

end

namespace Automaton

/-! ### Pieces -/

/-- An automaton after a piece was added, and whether the piece ends at a fork, which has to hold
the links to what follows. -/
structure Piece where
  size : AutomatonSize
  forks : Bool

/-- The automaton with the end of the piece linked to what follows. -/
def Piece.linked (piece : Piece) : AutomatonSize :=
  piece.size.withLinks (if piece.forks then 1 else 0)

/-- Add copies, each behind the one before. Nothing is added to what is too large already. -/
def addCopies (add : AutomatonSize → Piece) : Nat → Piece → Piece
  | 0, piece => piece
  | count + 1, piece =>
    if piece.size.isTooLarge then piece else addCopies add count (add piece.linked)

/-- Add exactly so many copies; none takes one state. -/
def addExactly (add : AutomatonSize → Piece) (count : Nat) (size : AutomatonSize) : Piece :=
  match count with
  | 0 => ⟨size.withStates 1, false⟩
  | count + 1 => addCopies add count (add size)

/-- Add copies that may be left out, with a fork in front of each. -/
def addOptional (add : AutomatonSize → Piece) : Nat → Piece → Piece
  | 0, piece => piece
  | count + 1, piece =>
    if piece.size.isTooLarge then piece
    else addOptional add count (add ((piece.linked.withStates 1).withLinks 2))

/-- Add a repetition. One without an upper limit loops at a fork; where its inside may match the
empty text, two forks keep the order of preference. -/
def addRepetition (add : AutomatonSize → Piece) (least : Nat) (most : Option Nat)
    (mayBeEmpty : Bool) (size : AutomatonSize) : Piece :=
  match least, most with
  | 0, some 1 => ⟨((add (size.withStates 1)).linked.withStates 1).withLinks 2, false⟩
  | least, some most =>
    let required := addExactly add least size
    if least = most then required
    else
      let piece := addOptional add (most - least) ⟨required.size.withStates 1, required.forks⟩
      ⟨piece.linked, false⟩
  | 0, none =>
    if mayBeEmpty then ⟨((add size).linked.withStates 3).withLinks 4, false⟩
    else ⟨(add (size.withStates 1)).linked.withLinks 1, true⟩
  | 1, none => ⟨((add size).linked.withStates 1).withLinks 1, true⟩
  | least + 2, none =>
    let required := addExactly add (least + 1) size
    ⟨((add required.linked).linked.withStates 1).withLinks 1, true⟩

/-! ### Patterns -/

/-- The texts of patterns that are all literals. -/
def words? : List Pattern → Option (List (List Char))
  | [] => some []
  | .literal text :: patterns => (words? patterns).map (text :: ·)
  | _ => none

/-- The bytes of a word in the order in which they are read. -/
def bytesOf (direction : Direction) (word : List Char) : List Nat :=
  let bytes := word.flatMap fun c => Utf8.encode c.toNat
  match direction with
  | .forwards => bytes
  | .backwards => bytes.reverse

mutual

/-- Add the automaton for a pattern. Groups take states forwards only. -/
def addPattern (direction : Direction) : Pattern → AutomatonSize → Piece
  | .literal text, size => ⟨size.withStates (Utf8.size text), false⟩
  | .chars set, size => ⟨addSet direction set size, false⟩
  | .assertion _, size => ⟨size.withStates 1, false⟩
  | .group _ inner, size =>
    match direction with
    | .forwards => ⟨(addPattern direction inner (size.withStates 1)).linked.withStates 1, false⟩
    | .backwards => addPattern direction inner size
  | .sequence [], size => ⟨size.withStates 1, false⟩
  | .sequence parts, size =>
    match direction with
    | .forwards => addForwardParts parts ⟨size, false⟩
    | .backwards => addBackwardParts parts ⟨size, false⟩
  | .choice branches, size =>
    match words? branches with
    | some words => ⟨(WordTree.ofWords (words.map (bytesOf direction))).addTo size, false⟩
    | none => ⟨addBranches direction branches 0 size, false⟩
  | .repetition inner least most _, size =>
    addRepetition (addPattern direction inner) least most (!inner.shortest?.any (0 < ·)) size

/-- Add the automata for the parts of a sequence behind a piece, forwards. -/
def addForwardParts : List Pattern → Piece → Piece
  | [], piece => piece
  | part :: parts, piece => addForwardParts parts (addPattern .forwards part piece.linked)

/-- Add the automata for the parts of a sequence behind a piece, backwards. -/
def addBackwardParts : List Pattern → Piece → Piece
  | [], piece => piece
  | part :: parts, piece => addPattern .backwards part (addBackwardParts parts piece).linked

/-- Add the automata for branches behind so many others. The fork and the end of the choice come
behind the first two. -/
def addBranches (direction : Direction) :
    List Pattern → (others : Nat) → AutomatonSize → AutomatonSize
  | [], others, size => if others ≤ 2 then size.withStates 2 else size
  | branch :: branches, others, size =>
    let size := if others = 2 then size.withStates 2 else size
    addBranches direction branches (others + 1)
      ((addPattern direction branch size).linked.withLinks 1)

end

end Automaton

/-! ### The limit -/

/-- The size of the automaton that finds the pattern: in front it has a loop over all bytes, or one
state where the pattern is anchored, and the whole occurrence is a group. -/
def automatonSize (direction : Direction) (pattern : Pattern) : AutomatonSize :=
  let front := AutomatonSize.zero
  let front :=
    if pattern.isAnchored direction then front.withStates 1
    else ((front.withStates 2).withRanges 1).withLinks 2
  (Automaton.addPattern direction (.group 0 pattern) front).linked.withStates 1

/-- Whether both automata for the pattern stay within the limit. -/
def fits (pattern : Pattern) : Bool :=
  !(pattern.automatonSize .forwards).isTooLarge && !(pattern.automatonSize .backwards).isTooLarge

end DocumentDb.Pattern
