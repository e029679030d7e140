import DocumentDb.MapFunction.Parser
import Mathlib.Computability.Language

/-!
# The grammar of map functions

The language of each nonterminal, as a set of lists of tokens. Expressions and statements are
indexed by the levels of nesting that they may use: each expression, each statement and each
negation takes one for what is inside of it.

Two grammars of statements are given. In the plain one an `else` may go with any `if` before it that
has none. In the other one it goes with the nearest.
-/

namespace DocumentDb.MapFunction.Grammar

open scoped Computability

/-! ### Tokens -/

/-- The mark alone. -/
def mark (p : Punct) : Language Token := {[.punct p]}

/-- One of the marks. -/
def marks (ps : List Punct) : Language Token := {tokens | ∃ p ∈ ps, tokens = [.punct p]}

/-- The word alone. -/
def word (name : String) : Language Token := {[.word name]}

/-- One of the words. -/
def words (names : List String) : Language Token := {tokens | ∃ name ∈ names, tokens = [.word name]}

/-- Any word. -/
def anyWord : Language Token := {tokens | ∃ name, tokens = [.word name]}

/-- Any string. -/
def anyString : Language Token := {tokens | ∃ value, tokens = [.string value]}

/-- Any number. -/
def anyNumber : Language Token := {tokens | ∃ value, tokens = [.number value]}

/-! ### Lists -/

/-- A sentence between two marks. -/
def enclosed (opening : Punct) (l : Language Token) (closing : Punct) : Language Token :=
  mark opening * (l * mark closing)

/-- Sentences with one of the marks between each two. -/
def chained (ps : List Punct) (l : Language Token) : Language Token := l * (marks ps * l)∗

/-- So many sentences with commas between them; a comma may follow the last one. -/
def separated (l : Language Token) : Nat → Language Token
  | 0 => 1
  | n + 1 => l * (mark .comma * l) ^ n * (1 + mark .comma)

/-- Any number of sentences with commas between them. -/
def listed (l : Language Token) : Language Token := {tokens | ∃ n, tokens ∈ separated l n}

/-! ### Expressions -/

/-- The words that stand for a value whatever the parameter is called. -/
def constants : List String := ["true", "false", "null", "undefined"]

/-- A number, a string, a constant, the parameter, an expression in parentheses, an array or an
object. -/
def primary (parameter : String) (inner : Language Token) : Language Token :=
  anyNumber + anyString + words (parameter :: constants) +
    enclosed .openParen inner .closeParen +
    enclosed .openBracket (listed inner) .closeBracket +
    enclosed .openBrace (listed ((anyWord + anyString) * (mark .colon * inner))) .closeBrace

/-- A member: a name after a point, or an expression in brackets. -/
def member (inner : Language Token) : Language Token :=
  mark .dot * anyWord + enclosed .openBracket inner .closeBracket

/-- A primary expression and its members. -/
def suffixed (parameter : String) (inner : Language Token) : Language Token :=
  primary parameter inner * (member inner)∗

/-- The marks of the comparisons of order. -/
def relations : List Punct := [.lessEq, .greaterEq, .less, .greater]

/-- The marks of the comparisons of equality. -/
def equalities : List Punct := [.strictEq, .strictNe, .looseEq, .looseNe]

/-- The binary operators over operands. -/
def operations (operand : Language Token) : Language Token :=
  chained [.or] (chained [.and] (chained equalities (chained relations operand)))

/-- Negations of a primary expression with its members, with `depth` levels left. -/
def unary (parameter : String) : Nat → Language Token
  | 0 => suffixed parameter 0
  | depth + 1 =>
    mark .not * unary parameter depth + suffixed parameter (operations (unary parameter depth))

/-- An expression, with `depth` levels left. -/
def expression (parameter : String) : Nat → Language Token
  | 0 => 0
  | depth + 1 => operations (unary parameter depth)

/-! ### Statements -/

/-- At most two expressions in parentheses. -/
def arguments (parameter : String) (depth : Nat) : Language Token :=
  let argument := expression parameter depth
  enclosed .openParen (separated argument 0 + separated argument 1 + separated argument 2)
    .closeParen

/-- An emission. -/
def emission (parameter : String) (depth : Nat) : Language Token :=
  word "emit" * arguments parameter depth

/-- A block of statements. -/
def block (statement : Language Token) : Language Token :=
  enclosed .openBrace statement∗ .closeBrace

/-- A statement without a choice. -/
def simple (parameter : String) (depth : Nat) (statement : Language Token) : Language Token :=
  mark .semicolon + block statement + emission parameter depth * (1 + mark .semicolon)

/-- The condition of a choice. -/
def condition (parameter : String) (depth : Nat) : Language Token :=
  word "if" * enclosed .openParen (expression parameter depth) .closeParen

/-- A statement, with `depth` levels left; an `else` may go with any `if` before it. -/
def anyStatement (parameter : String) : Nat → Language Token
  | 0 => 0
  | depth + 1 =>
    let statement := anyStatement parameter depth
    simple parameter depth statement +
      condition parameter depth * (statement * (1 + word "else" * statement))

/-- A statement, with `depth` levels left; an `else` goes with the nearest `if`. So the statement
before an `else` is a closed one: it does not end in an `if` that has no `else`. -/
def statement (parameter : String) : Nat → (closed : Bool) → Language Token
  | 0, _ => 0
  | depth + 1, closed =>
    simple parameter depth (statement parameter depth false) +
      condition parameter depth *
        (statement parameter depth true * (word "else" * statement parameter depth closed)) +
      if closed then 0 else condition parameter depth * statement parameter depth false

/-! ### Functions -/

/-- The parameter in its parentheses. -/
def parameterList (parameter : String) : Language Token :=
  enclosed .openParen (word parameter) .closeParen

/-- The parameter of an arrow function. The word `function` needs the parentheses. -/
def arrowParameter (parameter : String) : Language Token :=
  parameterList parameter + if parameter = "function" then 0 else word parameter

/-- A function; `statement` has the statements of its block. -/
def function (statement : String → Language Token) : Language Token :=
  {tokens | ∃ parameter, tokens ∈
    word "function" * ((1 + anyWord) * (parameterList parameter * block (statement parameter))) +
      arrowParameter parameter *
        (mark .arrow * (block (statement parameter) + emission parameter maxDepth))}

/-- A whole source: a function, in parentheses or not, and semicolons. -/
def program (statement : String → Language Token) : Language Token :=
  (function statement + enclosed .openParen (function statement) .closeParen) *
    (mark .semicolon)∗

end DocumentDb.MapFunction.Grammar
