/-!
# The size of automata

A pattern is searched for by two automata on bytes, one that reads forwards and one that reads
backwards. Their size is counted in bytes: so many for each state, and more for the links of a fork
and for the ranges of bytes that a state tells apart.
-/

namespace DocumentDb.Pattern

/-- The direction in which an automaton reads. -/
inductive Direction
  | forwards
  | backwards
deriving DecidableEq

/-- How large an automaton is: its states, and the bytes that they hold besides. -/
structure AutomatonSize where
  states : Nat
  extra : Nat
deriving DecidableEq

namespace AutomatonSize

/-- The size of the automaton without states. -/
def zero : AutomatonSize := ⟨0, 0⟩

/-- The size in bytes. -/
def bytes (size : AutomatonSize) : Nat := 32 * size.states + size.extra

/-- The size in bytes that no automaton may exceed. -/
def maxBytes : Nat := 10 * 1024 * 1024

/-- Whether the automaton exceeds the limit. -/
def isTooLarge (size : AutomatonSize) : Bool := maxBytes < size.bytes

/-- With further states. -/
def withStates (size : AutomatonSize) (count : Nat) : AutomatonSize :=
  { size with states := size.states + count }

/-- With further links of forks. -/
def withLinks (size : AutomatonSize) (count : Nat) : AutomatonSize :=
  { size with extra := size.extra + 4 * count }

/-- With a state that tells so many ranges of bytes apart. -/
def withRanges (size : AutomatonSize) (count : Nat) : AutomatonSize :=
  ⟨size.states + 1, size.extra + 8 * count⟩

end AutomatonSize

end DocumentDb.Pattern
