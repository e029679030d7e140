import DocumentDb.Selector.Basic
import DocumentDb.Json.Coercion
import DocumentDb.Json.Order
import DocumentDb.Json.Path
import DocumentDb.Pattern.Matching

/-!
# Matching of selectors

A selector narrows a list of numbered documents clause by clause. `$and` narrows by one selector
after the other, `$not` and `$nor` leave out what their selectors pick, and `$or` joins what each of
its selectors picks from the documents that the enclosing selector started with, in that order, and
keeps of those what the earlier clauses have left. A selector matches a single document when it
leaves it.
-/

namespace DocumentDb

/-- A document with its number. -/
abbrev Numbered := Json × Nat

namespace Selector

/-- The documents of a list that are not among those excluded. -/
def without (excluded documents : List Numbered) : List Numbered :=
  documents.filter fun document => !excluded.any (·.2 == document.2)

/-! ### Operators that look at values only -/

/-- Whether an item equal to the given one is in a list. -/
def hasItem (items : List Json) (wanted : Json) : Bool := items.any (·.deepEqual wanted)

/-- Whether two arrays share an element; nothing where one is missing or no array. -/
def intersects? : Option Json → Json → Option Bool
  | some (.array items), .array wanted => some (wanted.any (hasItem items))
  | _, _ => none

/-- Whether a value is comparable with an operand and stands to it in an accepted order. -/
def ordered (accept : Ordering → Bool) (value : Option Json) (operand : Json) : Bool :=
  (value.bind (·.compare? operand)).any accept

/-- Whether arrays are equal element by element. -/
def elementsEqual (expected : List Json) : Option Json → Bool
  | some (.array items) => Json.deepEqualItems items expected
  | _ => false

/-- Whether a value is an array of the length that the operand gives. -/
def hasSize : Option Json → Json → Bool
  | some (.array items), .number length => (Double.ofInt items.length).numericEq length.toDouble
  | _, _ => false

/-- Whether a value is a number that leaves the remainder on division. -/
def leavesRest (operands : Option (Double × Double)) : Option Json → Bool
  | some (.number n) => operands.any fun operands => n.toDouble.hasRemainder operands.1 operands.2
  | _ => false

/-! ### Conditions and selectors -/

mutual

/-- Whether a value that may be missing meets a condition. -/
def conditionHolds : Condition → Option Json → Bool
  | .equals expected, value => value.any (·.deepEqual expected)
  | .null, value => match value with
    | some .null => true
    | _ => false
  | .elements expected, value => elementsEqual expected value
  | .operators operators, value => operatorsHold operators value

/-- Whether a value that may be missing passes every operator. -/
def operatorsHold : List Operator → Option Json → Bool
  | [], _ => true
  | operator :: operators, value => operatorHolds operator value && operatorsHold operators value

/-- Whether a value that may be missing passes an operator. -/
def operatorHolds : Operator → Option Json → Bool
  | .eq operand, value => Json.optionalEqual value (some operand)
  | .ne operand, value => !Json.optionalEqual value (some operand)
  | .lt operand, value => ordered (· == .lt) value operand
  | .gt operand, value => ordered (· == .gt) value operand
  | .lte operand, value => ordered (· != .gt) value operand
  | .gte operand, value => ordered (· != .lt) value operand
  | .exist expected, value => value.isSome == expected
  | .type operand, value => operand.string? == some (Json.typeName value)
  | .isIn operand, value => intersects? value operand == some true
  | .notIn operand, value => intersects? value operand == some false
  | .size operand, value => hasSize value operand
  | .mod operands, value => leavesRest operands value
  | .regex pattern, value => pattern.occursIn (Json.textOf value)
  | .all required, value => match value with
    | some (.array items) => required.all (hasItem items)
    | _ => false
  | .elemMatch matcher, value => match value with
    | some (.array items) => items.any fun item => matcherHolds matcher item
    | _ => false
  | .allMatch matcher, value => match value with
    | some (.array items) => items.all fun item => matcherHolds matcher item
    | _ => false
  | .keyMapMatch condition, value => match value with
    | some (.object fields) =>
      fields.any fun field => conditionHolds condition (some (.string field.1))
    | _ => false

/-- Whether an element of an array meets its matcher. -/
def matcherHolds : ElementMatcher → Json → Bool
  | .value condition, element => conditionHolds condition (some element)
  | .fields selector, element => !(narrow selector [(element, 0)]).isEmpty

/-- The documents that a selector leaves of a list, in the order of its result. -/
def narrow : Selector → List Numbered → List Numbered
  | .mk clauses, origin => narrowClauses clauses origin origin

/-- The documents that clauses leave of those still running, where the selector started with
`origin`. -/
def narrowClauses : List Clause → List Numbered → List Numbered → List Numbered
  | [], _, running => running
  | clause :: clauses, origin, running =>
    narrowClauses clauses origin (narrowClause clause origin running)

/-- The documents that one clause leaves of those still running. -/
def narrowClause : Clause → List Numbered → List Numbered → List Numbered
  | .and selectors, _, running => narrowAll selectors running
  | .or selectors, origin, running =>
    (joined selectors origin []).filter fun document => running.any (·.2 == document.2)
  | .not selector, _, running => without (narrow selector running) running
  | .nor selectors, _, running => withoutAll selectors running
  | .field path condition, _, running =>
    running.filter fun document => conditionHolds condition (document.1.get? path)

/-- The documents that one selector after the other leaves. -/
def narrowAll : List Selector → List Numbered → List Numbered
  | [], running => running
  | selector :: selectors, running => narrowAll selectors (narrow selector running)

/-- The documents that one of the selectors leaves of `origin`, behind those that are joined
already; no document comes twice. -/
def joined : List Selector → List Numbered → List Numbered → List Numbered
  | [], _, found => found
  | selector :: selectors, origin, found =>
    joined selectors origin (found ++ without found (narrow selector origin))

/-- The documents that none of the selectors leaves. -/
def withoutAll : List Selector → List Numbered → List Numbered
  | [], running => running
  | selector :: selectors, running =>
    withoutAll selectors (without (narrow selector running) running)

end

/-- Whether a selector leaves a document. -/
def matchesDocument (selector : Selector) (document : Json) : Bool :=
  !(selector.narrow [(document, 0)]).isEmpty

/-- The positions of the documents that a selector leaves, in the order of its result. -/
def select (selector : Selector) (documents : List Json) : List Nat :=
  (selector.narrow documents.zipIdx).map Prod.snd

end Selector

end DocumentDb
