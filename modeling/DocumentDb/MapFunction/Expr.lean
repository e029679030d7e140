import DocumentDb.Json.Basic

/-!
# Expressions and statements of map functions

The tree of a map function. Expressions are literals, the parameter, members, array and object
literals, logical operators and comparisons; statements emit rows, choose and group.
-/

namespace DocumentDb.MapFunction

/-- The comparison operators. -/
inductive Comparison
  | strictEq
  | strictNe
  | looseEq
  | looseNe
  | less
  | lessEq
  | greater
  | greaterEq
deriving DecidableEq

/-- An expression; `undefined` is the value that is missing. -/
inductive Expr
  | literal (value : Json)
  | undefined
  | parameter
  | member (base key : Expr)
  | array (items : List Expr)
  | object (fields : List (String × Expr))
  | not (operand : Expr)
  | and (left right : Expr)
  | or (left right : Expr)
  | compare (operator : Comparison) (left right : Expr)

instance : Inhabited Expr := ⟨.undefined⟩

/-- A statement. -/
inductive Stmt
  | emit (key value : Option Expr)
  | branch (condition : Expr) (yes : Stmt) (no : Option Stmt)
  | block (body : List Stmt)
  | empty

instance : Inhabited Stmt := ⟨.empty⟩

end DocumentDb.MapFunction
