import DocumentDb.Pattern.Automaton.Size

/-!
# Automata for choices between words

A choice between words is read along a tree. A node of the tree has steps, one for each byte that
may come next, and stops where a word ends, in the order in which they were added: a word that comes
before others is tried before them.
-/

namespace DocumentDb.Pattern.Automaton

/-- A tree of words, as the entries of its root: its stops, and its steps with the trees below
them. -/
inductive WordTree
  | done
  | stop (rest : WordTree)
  | step (byte : Nat) (below rest : WordTree)

namespace WordTree

/-- Whether there is a stop among the entries. -/
def hasStop : WordTree → Bool
  | done => false
  | stop _ => true
  | step _ _ rest => rest.hasStop

/-- Whether there is no step among the entries. -/
def isLeaf : WordTree → Bool
  | done => true
  | stop rest => rest.isLeaf
  | step _ _ _ => false

/-- Add a stop behind the entries. -/
def addStop : WordTree → WordTree
  | done => stop done
  | stop rest => stop rest.addStop
  | step byte below rest => step byte below rest.addStop

/-- Change the tree below the step for a byte. A step before a stop is left alone, and where there
is no other, a new one comes behind the entries. -/
def descend (byte : Nat) (change : WordTree → WordTree) : WordTree → WordTree
  | done => step byte (change done) done
  | stop rest => stop (rest.descend byte change)
  | step other inner rest =>
    if other = byte && !rest.hasStop then step other (change inner) rest
    else step other inner (rest.descend byte change)

/-- Add a word. -/
def insert : List Nat → WordTree → WordTree
  | [], tree => if tree.isLeaf && tree.hasStop then tree else tree.addStop
  | byte :: word, tree => tree.descend byte (insert word)

/-- The tree of some words. -/
def ofWords (words : List (List Nat)) : WordTree :=
  words.foldl (fun tree word => tree.insert word) done

/-- The automaton with a state for some steps that follow each other, linked from the fork of their
node. -/
def addSteps (count : Nat) (size : AutomatonSize) : AutomatonSize :=
  match count with
  | 0 => size
  | 1 => (size.withStates 1).withLinks 1
  | count => (size.withRanges count).withLinks 1

/-- The automaton with one for the entries of a node added, of which `count` steps follow each other
in front. The steps to a leaf go straight to the end, and the others to the fork of a node. -/
def addEntries : WordTree → (count : Nat) → AutomatonSize → AutomatonSize
  | done, count, size => addSteps count size
  | stop rest, count, size => rest.addEntries 0 ((addSteps count size).withLinks 1)
  | step _ below rest, count, size =>
    let size := if below.isLeaf then size else (below.addEntries 0 size).withStates 1
    rest.addEntries (count + 1) size

/-- The automaton with one for the tree added: its end, and the fork of its root. -/
def addTo (tree : WordTree) (size : AutomatonSize) : AutomatonSize :=
  (tree.addEntries 0 (size.withStates 1)).withStates 1

end WordTree

end DocumentDb.Pattern.Automaton
