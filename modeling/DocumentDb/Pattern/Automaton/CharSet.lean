import DocumentDb.Pattern.Automaton.Size
import DocumentDb.Pattern.Utf8
import Std.Data.HashMap

/-!
# Automata for sets of characters

The automaton for a set of characters shares states between its sequences of byte ranges. It finds
the states to share in a table of few places: where two of them fall to one place, the later takes
it, and the earlier is not found any more. So the size depends on the numbers of the states, and
with them on what was built before.
-/

namespace DocumentDb.Pattern.Automaton

/-- The outcome of mixing numbers, which decides the place in a table. -/
def mix (numbers : List Nat) : UInt64 :=
  numbers.foldl (fun hash n => (hash ^^^ n.toUInt64) * 1099511628211) 14695981039346656037

/-! ### Forwards -/

/-- A link to a state for a range of bytes. -/
structure Arrow where
  range : ByteRange
  target : Nat
deriving DecidableEq

/-- An automaton that is built forwards, and its states that can be found by their arrows. -/
structure ForwardTable where
  size : AutomatonSize
  places : Std.HashMap Nat (List Arrow × Nat)

/-- The place of a state in the table. -/
def placeOfArrows (arrows : List Arrow) : Nat :=
  (mix (arrows.flatMap fun a => [a.range.first, a.range.last, a.target])).toNat % 10000

/-- The state with some arrows, found or added. -/
def ForwardTable.state (table : ForwardTable) (arrows : List Arrow) : Nat × ForwardTable :=
  let place := placeOfArrows arrows
  let found := table.places[place]?.filter (·.1 = arrows)
  match found with
  | some known => (known.2, table)
  | none =>
    let number := table.size.states
    (number, ⟨table.size.withRanges arrows.length, table.places.insert place (arrows, number)⟩)

/-- Sequences by their first range, where it stays the same. -/
def byFirst (sequences : List (List ByteRange)) : List (ByteRange × List (List ByteRange)) :=
  sequences.foldr
    (fun sequence groups => match sequence, groups with
      | [], groups => groups
      | range :: rest, (known, rests) :: groups =>
        if range = known then (known, rest :: rests) :: groups
        else (range, [rest]) :: (known, rests) :: groups
      | range :: rest, [] => [(range, [rest])])
    []

/-- The state that reads some sequences, of at most `length` ranges, and then goes on at `target`.
-/
def readForwards (target : Nat) :
    (length : Nat) → List (List ByteRange) → ForwardTable → Nat × ForwardTable
  | 0, _, table => (target, table)
  | length + 1, sequences, table =>
    if sequences.all List.isEmpty then (target, table)
    else
      let (arrows, table) := (byFirst sequences).foldl
        (fun (arrows, table) (range, rests) =>
          let (next, table) := readForwards target length rests table
          (⟨range, next⟩ :: arrows, table))
        ([], table)
      table.state arrows.reverse

/-- The automaton with one for a set of characters added, forwards. -/
def addForwards (set : CharSet) (size : AutomatonSize) : AutomatonSize :=
  (readForwards size.states 4 (Utf8.sequences set) ⟨size.withStates 1, ∅⟩).2.size

/-! ### Backwards -/

/-- An automaton that is built backwards, and its states that can be found by the state that they
lead to and the range of bytes that they read. -/
structure BackwardTable where
  size : AutomatonSize
  places : Std.HashMap Nat (Arrow × Nat)

/-- The place of a state in the table. -/
def placeOfArrow (arrow : Arrow) : Nat :=
  (mix [arrow.target, arrow.range.first, arrow.range.last]).toNat % 1000

/-- The state with an arrow, found or added. -/
def BackwardTable.state (table : BackwardTable) (arrow : Arrow) : Nat × BackwardTable :=
  let place := placeOfArrow arrow
  let found := table.places[place]?.filter (·.1 = arrow)
  match found with
  | some known => (known.2, table)
  | none =>
    let number := table.size.states
    (number, ⟨table.size.withStates 1, table.places.insert place (arrow, number)⟩)

/-- The automaton with states that read a sequence backwards and then go on at `target`, linked from
the fork between sequences. -/
def readBackwards (target : Nat) (table : BackwardTable) (sequence : List ByteRange) :
    BackwardTable :=
  let (_, table) := sequence.foldl
    (fun (next, table) range => table.state ⟨range, next⟩) (target, table)
  { table with size := table.size.withLinks 1 }

/-- The automaton with one for a set of characters added, backwards. -/
def addBackwards (set : CharSet) (size : AutomatonSize) : AutomatonSize :=
  ((Utf8.sequences set).foldl (readBackwards (size.states + 1)) ⟨size.withStates 2, ∅⟩).size

/-! ### Both directions -/

/-- The automaton with one for a set of characters added. For characters of ASCII one state tells
their ranges apart. -/
def addSet (direction : Direction) (set : CharSet) (size : AutomatonSize) : AutomatonSize :=
  if set.isAscii then (size.withStates 1).withRanges set.spans.length
  else
    match direction with
    | .forwards => addForwards set size
    | .backwards => addBackwards set size

end DocumentDb.Pattern.Automaton
