import DocumentDb.MapFunction.Expr
import DocumentDb.Json.Order
import DocumentDb.Json.Coercion
import DocumentDb.Number.Numeral

/-!
# Evaluation of map functions

The value of an expression for a document, where the value that is missing stands for `undefined`,
and the rows that a statement emits.
-/

namespace DocumentDb.MapFunction

/-! ### Members -/

/-- The member of a value under a key: a field of an object, an item of an array by position, or the
length of an array or a string. -/
def member? : Json → Json → Option Json
  | .object fields, .string key => Fields.value? fields key
  | .array items, .string key =>
    if key = "length" then some (.nat items.length)
    else (Text.natural? key).bind fun position => items[position]?
  | .string s, .string key => if key = "length" then some (.nat s.length) else none
  | .array items, .number (.int n _) => if 0 ≤ n then items[n.toNat]? else none
  | _, _ => none

/-! ### Comparisons -/

/-- The numeric reading of a value that may be missing: `null` and white space are zero, a numeral
is its value; arrays, objects and missing values are not numbers. -/
def toNumber : Option Json → Extended
  | none | some (.array _) | some (.object _) => .notANumber
  | some .null => .finite (.zero false)
  | some (.bool b) => .finite (.ofInt (if b then 1 else 0))
  | some (.number n) => .finite n.toDouble
  | some (.string s) =>
    let cs := Text.trim s.toList
    if cs.isEmpty then .finite (.zero false) else (Numeral.readSigned? cs).getD .notANumber

/-- Whether a value is a boolean, a number or a string. -/
def isPrimitive : Json → Bool
  | .bool _ | .number _ | .string _ => true
  | _ => false

/-- Strict equality: arrays and objects equal nothing. -/
def strictEqual : Option Json → Option Json → Bool
  | none, none => true
  | some (.array _), _ | some (.object _), _ => false
  | some a, some b => a.deepEqual b
  | _, _ => false

/-- Whether a value is missing or `null`. -/
def isNullish : Option Json → Bool
  | none | some .null => true
  | _ => false

/-- Loose equality: missing equals `null`, and primitive values of different kinds compare as
numbers. -/
def looseEqual (left right : Option Json) : Bool :=
  if isNullish left || isNullish right then isNullish left && isNullish right
  else
    match left, right with
    | some a, some b =>
      if isPrimitive a && isPrimitive b && a.kind != b.kind then
        (toNumber left).numericEq (toNumber right)
      else strictEqual left right
    | _, _ => false

/-- The order of two strings, or else of the numeric readings. -/
def order? : Option Json → Option Json → Option Ordering
  | some (.string a), some (.string b) => some (compare a b)
  | left, right => (toNumber left).compare? (toNumber right)

/-- Whether a comparison holds. -/
def Comparison.holds (operator : Comparison) (left right : Option Json) : Bool :=
  match operator with
  | strictEq => strictEqual left right
  | strictNe => !strictEqual left right
  | looseEq => looseEqual left right
  | looseNe => !looseEqual left right
  | less => (order? left right).any (· == .lt)
  | lessEq => (order? left right).any (· != .gt)
  | greater => (order? left right).any (· == .gt)
  | greaterEq => (order? left right).any (· != .lt)

/-! ### Expressions -/

mutual

/-- The value of an expression for a document. -/
def Expr.eval (document : Json) : Expr → Option Json
  | .literal value => some value
  | .undefined => none
  | .parameter => some document
  | .member base key =>
    (Expr.eval document base).bind fun base =>
      (Expr.eval document key).bind fun key => member? base key
  | .array items => some (.array (evalItems document items))
  | .object fields => some (.object (Fields.ofList (evalFields document fields)))
  | .not operand => some (.bool !Json.truthy (Expr.eval document operand))
  | .and left right =>
    let value := Expr.eval document left
    if Json.truthy value then Expr.eval document right else value
  | .or left right =>
    let value := Expr.eval document left
    if Json.truthy value then value else Expr.eval document right
  | .compare operator left right =>
    some (.bool (operator.holds (Expr.eval document left) (Expr.eval document right)))

/-- The items of an array literal; what is missing becomes `null`. -/
def evalItems (document : Json) : List Expr → List Json
  | [] => []
  | item :: items => (Expr.eval document item).getD .null :: evalItems document items

/-- The fields of an object literal; what is missing is left out. -/
def evalFields (document : Json) : List (String × Expr) → List (String × Json)
  | [] => []
  | (key, value) :: fields =>
    match Expr.eval document value with
    | some value => (key, value) :: evalFields document fields
    | none => evalFields document fields

end

/-! ### Statements -/

/-- The value of an argument that may be left out; what is missing becomes `null`. -/
def argument (document : Json) (e : Option Expr) : Json :=
  (e.bind (Expr.eval document)).getD .null

mutual

/-- The keys and values that a statement emits for a document, in order. -/
def Stmt.rows (document : Json) : Stmt → List (Json × Json)
  | .emit key value => [(argument document key, argument document value)]
  | .branch condition yes no =>
    if Json.truthy (condition.eval document) then Stmt.rows document yes
    else optionalRows document no
  | .block body => bodyRows document body
  | .empty => []

/-- The rows of a statement that may be left out. -/
def optionalRows (document : Json) : Option Stmt → List (Json × Json)
  | some stmt => Stmt.rows document stmt
  | none => []

/-- The rows of statements, one after the other. -/
def bodyRows (document : Json) : List Stmt → List (Json × Json)
  | [] => []
  | stmt :: body => Stmt.rows document stmt ++ bodyRows document body

end

end DocumentDb.MapFunction
