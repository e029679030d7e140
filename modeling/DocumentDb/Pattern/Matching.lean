import DocumentDb.Pattern.Basic

/-!
# Matching

A pattern is searched for anywhere in a text: matching maps the set of places where an occurrence
may start to the set of places where it may end, by recursion on the pattern. A text of `n`
characters has `n + 1` places, and a set of places is a list of marks, one for each.
-/

namespace DocumentDb.Pattern

/-- The places of a text, in order. -/
def places (before : Option Char) : List Char → List Place
  | [] => [⟨before, none⟩]
  | c :: cs => ⟨before, some c⟩ :: places (some c) cs

/-- The places that are marked. -/
abbrev Marks := List Bool

/-- The places in one of two sets. -/
def join (first second : Marks) : Marks := List.zipWith (· || ·) first second

/-- The marked places where a condition holds. -/
def keep (condition : Place → Bool) (text : List Place) (marks : Marks) : Marks :=
  List.zipWith (fun mark place => mark && condition place) marks text

/-- The places after an accepted character that follows a marked place. -/
def advance (accepts : Char → Bool) (text : List Place) (marks : Marks) : Marks :=
  false :: (keep (fun place => place.after.any accepts) text marks).dropLast

/-- The outcome of exactly so many steps; it ends early once a step changes nothing. -/
def exactly (step : Marks → Marks) : Nat → Marks → Marks
  | 0, marks => marks
  | count + 1, marks =>
    let next := step marks
    if next = marks then marks else exactly step count next

/-- The outcome of at most so many steps; it ends early once a step leads nowhere new. -/
def within (step : Marks → Marks) : Nat → Marks → Marks
  | 0, marks => marks
  | count + 1, marks =>
    let next := join marks (step marks)
    if next = marks then marks else within step count next

mutual

/-- The places where occurrences end that start at a marked place. As many optional repetitions as
the text has places reach every place that more of them reach. -/
def ends (text : List Place) : Pattern → Marks → Marks
  | .literal word, marks => word.foldl (fun marks c => advance (· == c) text marks) marks
  | .chars set, marks => advance set.contains text marks
  | .assertion condition, marks => keep (fun place => condition.holds place) text marks
  | .group _ inner, marks => ends text inner marks
  | .sequence parts, marks => sequenceEnds text parts marks
  | .choice branches, marks => choiceEnds text branches marks
  | .repetition inner least most _, marks =>
    let optional := match most with
      | some most => most - least
      | none => text.length
    within (ends text inner) optional (exactly (ends text inner) least marks)

/-- The places where occurrences of the parts, one after the other, end. -/
def sequenceEnds (text : List Place) : List Pattern → Marks → Marks
  | [], marks => marks
  | part :: parts, marks => sequenceEnds text parts (ends text part marks)

/-- The places where occurrences of one of the branches end. -/
def choiceEnds (text : List Place) : List Pattern → Marks → Marks
  | [], marks => marks.map fun _ => false
  | branch :: branches, marks => join (ends text branch marks) (choiceEnds text branches marks)

end

/-- Whether the pattern occurs anywhere in a text. -/
def occursIn (pattern : Pattern) (text : String) : Bool :=
  let text := places none text.toList
  (ends text pattern (text.map fun _ => true)).any id

end DocumentDb.Pattern
