import DocumentDb.Json.Basic
import DocumentDb.Pattern.Basic

/-!
# Selectors

A selector describes documents. It is a list of clauses that all have to hold: combinations of other
selectors, or a condition on the value at a path. A condition is a value to equal, or a list of
operators that all have to hold.
-/

namespace DocumentDb

mutual

/-- A selector: clauses that all have to hold. -/
inductive Selector
  | mk (clauses : List Clause)

/-- A clause: a combination of selectors, or a condition on the value at a path. -/
inductive Clause
  | and (selectors : List Selector)
  | or (selectors : List Selector)
  | not (selector : Selector)
  | nor (selectors : List Selector)
  | field (path : String) (condition : Condition)

/-- A condition on a value that may be missing: to equal a boolean, a number or a string, to be
`null`, to be an array of equal elements, or to pass every operator. -/
inductive Condition
  | equals (expected : Json)
  | null
  | elements (expected : List Json)
  | operators (operators : List Operator)

/-- An operator on a value that may be missing. `mod` has a divisor and a remainder unless its
operand is malformed. -/
inductive Operator
  | eq (operand : Json)
  | ne (operand : Json)
  | lt (operand : Json)
  | gt (operand : Json)
  | lte (operand : Json)
  | gte (operand : Json)
  | exist (expected : Bool)
  | type (operand : Json)
  | isIn (operand : Json)
  | notIn (operand : Json)
  | size (operand : Json)
  | mod (operands : Option (Double × Double))
  | regex (pattern : Pattern)
  | all (required : List Json)
  | elemMatch (matcher : ElementMatcher)
  | allMatch (matcher : ElementMatcher)
  | keyMapMatch (condition : Condition)

/-- What an element of an array is matched against: a condition on itself, or a selector over its
fields. -/
inductive ElementMatcher
  | value (condition : Condition)
  | fields (selector : Selector)

end

instance : Inhabited Selector := ⟨.mk []⟩

end DocumentDb
