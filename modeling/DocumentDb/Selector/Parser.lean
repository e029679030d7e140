import DocumentDb.Selector.Basic
import DocumentDb.Json.Coercion
import DocumentDb.Pattern.Parser

/-!
# Reading selectors

A selector is read from a JSON object, clause by clause in the order of its fields, and is refused
with the first fault before any document is looked at.
-/

namespace DocumentDb

/-- Why a value is no selector. -/
inductive SelectorError
  | notObject
  | invalidOperand (operator : String)
  | patternNotString
  | invalidPattern (cause : Pattern.ParseError)
  | unknownOperator (name : String)
deriving DecidableEq

/-- The wording of the error. -/
def SelectorError.message : SelectorError → String
  | notObject => "selector must be a JSON object"
  | invalidOperand operator => "invalid " ++ operator ++ " value"
  | patternNotString => "$regex operand must be a string"
  | invalidPattern _ => "invalid $regex"
  | unknownOperator name => "invalid operator: " ++ name

/-- The outcome of reading a selector or a part of one. -/
abbrev SelectorRead := Except SelectorError

namespace Selector

/-- The numbers of the operand of `$mod`: the first two items of an array, where both are numbers.
-/
def modOperands? : Json → Option (Double × Double)
  | .array (.number divisor :: .number rest :: _) => some (divisor.toDouble, rest.toDouble)
  | _ => none

/-- The pattern of the operand of `$regex`. -/
def readPattern : Json → SelectorRead Pattern
  | .string text => (Pattern.parse text).mapError .invalidPattern
  | _ => .error .patternNotString

/-- An operator whose operand holds no other selector or condition. -/
def readPlain (name : String) (operand : Json) : SelectorRead Operator :=
  match name with
  | "$eq" => .ok (.eq operand)
  | "$ne" => .ok (.ne operand)
  | "$lt" => .ok (.lt operand)
  | "$gt" => .ok (.gt operand)
  | "$lte" => .ok (.lte operand)
  | "$gte" => .ok (.gte operand)
  | "$exists" => .ok (.exist (Json.truthy (some operand)))
  | "$type" => .ok (.type operand)
  | "$in" => .ok (.isIn operand)
  | "$nin" => .ok (.notIn operand)
  | "$size" => .ok (.size operand)
  | "$mod" => .ok (.mod (modOperands? operand))
  | "$regex" => (readPattern operand).map .regex
  | "$all" =>
    match operand with
    | .array items => .ok (.all items)
    | _ => .error (.invalidOperand name)
  | _ => .error (.unknownOperator name)

/-- Whether an object is a selector over the fields of an element: it has fields, and none is named
like an operator. -/
def describesFields (fields : Fields Json) : Bool :=
  !fields.isEmpty && !fields.any (Text.startsWith ·.1 "$")

mutual

/-- The selector in a value. -/
def ofJson : Json → SelectorRead Selector
  | .object fields => (clausesOf fields).map .mk
  | _ => .error .notObject

/-- The selectors in the items of an array. -/
def listOf : List Json → SelectorRead (List Selector)
  | [] => .ok []
  | item :: items => do
    let selector ← ofJson item
    let selectors ← listOf items
    return selector :: selectors

/-- The clause of a field: a combination for `$and`, `$or`, `$nor` and `$not`, else a condition. -/
def clauseOf (key : String) : Json → SelectorRead Clause
  | .array items =>
    match key with
    | "$and" => (listOf items).map .and
    | "$or" => (listOf items).map .or
    | "$nor" => (listOf items).map .nor
    | "$not" => .error (.invalidOperand key)
    | path => .ok (.field path (.elements items))
  | .object fields =>
    match key with
    | "$and" | "$or" | "$nor" => .error (.invalidOperand key)
    | "$not" => (clausesOf fields).map fun clauses => .not (.mk clauses)
    | path => (operatorsOf fields).map fun operators => .field path (.operators operators)
  | operand =>
    match key with
    | "$and" | "$or" | "$nor" => .error (.invalidOperand key)
    | "$not" => .error .notObject
    | path => .ok (.field path (match operand with
        | .null => .null
        | operand => .equals operand))

/-- The clauses of the fields of an object. -/
def clausesOf : List (String × Json) → SelectorRead (List Clause)
  | [] => .ok []
  | (key, operand) :: fields => do
    let clause ← clauseOf key operand
    let clauses ← clausesOf fields
    return clause :: clauses

/-- The condition in a value. -/
def conditionOf : Json → SelectorRead Condition
  | .null => .ok .null
  | .array items => .ok (.elements items)
  | .object fields => (operatorsOf fields).map .operators
  | value => .ok (.equals value)

/-- The operators of the fields of an object. -/
def operatorsOf : List (String × Json) → SelectorRead (List Operator)
  | [] => .ok []
  | (name, operand) :: fields => do
    let operator ← operatorOf name operand
    let operators ← operatorsOf fields
    return operator :: operators

/-- The operator of a name and an operand. -/
def operatorOf (name : String) (operand : Json) : SelectorRead Operator :=
  match name with
  | "$elemMatch" => (matcherOf operand).map .elemMatch
  | "$allMatch" => (matcherOf operand).map .allMatch
  | "$keyMapMatch" => (conditionOf operand).map .keyMapMatch
  | name => readPlain name operand

/-- What the elements of an array are to be matched against. -/
def matcherOf : Json → SelectorRead ElementMatcher
  | .null => .ok (.value .null)
  | .array items => .ok (.value (.elements items))
  | .object fields =>
    if describesFields fields then (clausesOf fields).map fun clauses => .fields (.mk clauses)
    else (operatorsOf fields).map fun operators => .value (.operators operators)
  | value => .ok (.value (.equals value))

end

end Selector

end DocumentDb
