import DocumentDb.MapFunction.Token
import DocumentDb.MapFunction.Expr

/-!
# Parsing map functions

`program` reads the tokens of a source as one function. A parser answers with a value and the tokens
left, of which there are no more than it was given; that bound is part of the answer's type and is
what makes the loops end. The depth of nesting is a budget on which the parsers of expressions and
statements recurse: each nested expression, statement and negation takes one level of it.
-/

namespace DocumentDb.MapFunction

/-- How deep expressions and statements may nest. -/
def maxDepth : Nat := 128

/-- What makes tokens no function; positions count tokens from zero. -/
inductive GrammarError
  | expected (mark : Punct) (position : Nat)
  | expectedIdentifier (position : Nat)
  | unsupportedStatement (position : Nat)
  | tooDeep
  | unterminatedBlock
  | tooManyArguments
  | expectedKey
  | unknownIdentifier (name : String)
  | unexpectedPunct (mark : Punct)
  | endOfInput
  | trailingInput
deriving DecidableEq

/-- The wording of the error. -/
def GrammarError.message : GrammarError → String
  | expected mark position =>
    "expected '" ++ mark.spelling ++ "' at token " ++ toString position
  | expectedIdentifier position => "expected identifier at token " ++ toString position
  | unsupportedStatement position => "unsupported statement at token " ++ toString position
  | tooDeep => "nesting deeper than " ++ toString maxDepth ++ " levels"
  | unterminatedBlock => "unterminated block"
  | tooManyArguments => "emit takes at most two arguments"
  | expectedKey => "expected object key"
  | unknownIdentifier name => "unknown identifier '" ++ name ++ "'"
  | unexpectedPunct mark => "unexpected token Punct(\"" ++ mark.spelling ++ "\")"
  | endOfInput => "unexpected end of input"
  | trailingInput => "unexpected input after function body"

/-- What is fixed while the body of a function is read: the name of its parameter and the number of
tokens of the whole source. -/
structure Scope where
  parameter : String
  size : Nat

/-- The position of the first of the tokens left. -/
def Scope.position (scope : Scope) (left : List Token) : Nat := scope.size - left.length

/-! ### Parsers -/

/-- What a parser read, and at most `bound` tokens that are left. -/
structure Parsed (α : Type) (bound : Nat) where
  value : α
  rest : List Token
  length_le : rest.length ≤ bound

/-- The same answer under a larger bound. -/
def Parsed.weaken {α : Type} {m n : Nat} (h : m ≤ n) (read : Parsed α m) : Parsed α n :=
  ⟨read.value, read.rest, Nat.le_trans read.length_le h⟩

/-- A parser: it reads a beginning of the tokens. -/
def Parser (α : Type) := (tokens : List Token) → Except GrammarError (Parsed α tokens.length)

/-- A parser of what has a first token, given that token and the others. -/
def HeadParser (α : Type) :=
  Token → (rest : List Token) → Except GrammarError (Parsed α rest.length)

namespace Parser

/-- Read nothing. -/
def done {α : Type} (value : α) : Parser α := fun tokens => .ok ⟨value, tokens, Nat.le_refl _⟩

/-- Read one thing after another. -/
def andThen {α β : Type} (first : Parser α) (second : α → Parser β) : Parser β := fun tokens =>
  match first tokens with
  | .error e => .error e
  | .ok one =>
    match second one.value one.rest with
    | .error e => .error e
    | .ok two => .ok (two.weaken one.length_le)

/-- Fail. -/
def fail {α : Type} (error : GrammarError) : Parser α := fun _ => .error error

instance : Monad Parser where
  pure := Parser.done
  bind := Parser.andThen

/-- Read with the first token at hand; without one, fail. -/
def ofHead {α : Type} (parser : HeadParser α) (atEnd : GrammarError) : Parser α
  | [] => .error atEnd
  | token :: rest => (parser token rest).map (.weaken (Nat.le_succ _))

/-- Read the punctuation if it comes next. -/
def accept (mark : Punct) : Parser Bool
  | .punct m :: rest =>
    if m = mark then .ok ⟨true, rest, Nat.le_succ _⟩ else done false (.punct m :: rest)
  | tokens => done false tokens

/-- Read the word if it comes next. -/
def acceptWord (name : String) : Parser Bool
  | .word w :: rest =>
    if w = name then .ok ⟨true, rest, Nat.le_succ _⟩ else done false (.word w :: rest)
  | tokens => done false tokens

/-- Read the punctuation, which has to come next. -/
def expect (size : Nat) (mark : Punct) : Parser Unit
  | .punct m :: rest =>
    if m = mark then .ok ⟨(), rest, Nat.le_succ _⟩
    else .error (.expected mark (size - (rest.length + 1)))
  | tokens => .error (.expected mark (size - tokens.length))

/-- Read a word. -/
def identifier (size : Nat) : Parser String
  | .word name :: rest => .ok ⟨name, rest, Nat.le_succ _⟩
  | tokens => .error (.expectedIdentifier (size - tokens.length))

/-- Read operands from the left as long as one of the operators comes next. -/
def chainFrom (operator? : Punct → Option (Expr → Expr → Expr)) (operand : Parser Expr)
    (left : Expr) : Parser Expr
  | .punct mark :: rest =>
    match operator? mark with
    | none => done left (.punct mark :: rest)
    | some operator =>
      match operand rest with
      | .error e => .error e
      | .ok right =>
        have : right.rest.length < rest.length + 1 := Nat.lt_succ_of_le right.length_le
        (chainFrom operator? operand (operator left right.value) right.rest).map
          (.weaken (Nat.le_of_lt this))
  | tokens => done left tokens
termination_by tokens => tokens.length

/-- Read operands with the operators of one precedence between them, grouped to the left. -/
def chain (operator? : Punct → Option (Expr → Expr → Expr)) (operand : Parser Expr) :
    Parser Expr :=
  operand.andThen (chainFrom operator? operand)

/-- Read elements separated by commas up to the closing punctuation, which is not read; a comma may
follow the last one. -/
def elements {α : Type} (size : Nat) (close : Punct) (element : Parser α) : Parser (List α) :=
  fun tokens =>
    if tokens.head? = some (.punct close) then done [] tokens
    else
      match element tokens with
      | .error e => .error e
      | .ok first =>
        match _separator : first.rest with
        | .punct .comma :: rest =>
          have : rest.length < tokens.length := by
            have := first.length_le
            rw [_separator] at this
            exact this
          match elements size close element rest with
          | .error e => .error e
          | .ok others =>
            .ok ⟨first.value :: others.value, others.rest,
              Nat.le_trans others.length_le (Nat.le_of_lt this)⟩
        | _ => .ok ⟨[first.value], first.rest, first.length_le⟩
termination_by tokens => tokens.length

end Parser

open MapFunction.Parser

/-! ### Expressions -/

/-- The value of a number literal: an integer where it has no fraction and is below `2 ^ 53`, and
`null` where it is infinite. -/
def numberValue : Extended → Json
  | .finite x => if x.isInteger && x.absLt (1 <<< 53) then .int x.trunc else .number (.float x)
  | _ => .null

/-- The key of a field of an object literal: a word or a string. -/
def fieldKey : Parser String
  | .word name :: rest => .ok ⟨name, rest, Nat.le_succ _⟩
  | .string name :: rest => .ok ⟨name, rest, Nat.le_succ _⟩
  | _ => .error .expectedKey

/-- A field of an object literal: its key, a colon and an expression. -/
def field (scope : Scope) (inner : Parser Expr) : Parser (String × Expr) := do
  let key ← fieldKey
  expect scope.size .colon
  let value ← inner
  return (key, value)

/-- What a word stands for as an expression. -/
def wordExpr (scope : Scope) (name : String) : Except GrammarError Expr :=
  match name with
  | "true" => .ok (.literal (.bool true))
  | "false" => .ok (.literal (.bool false))
  | "null" => .ok (.literal .null)
  | "undefined" => .ok .undefined
  | name => if name = scope.parameter then .ok .parameter else .error (.unknownIdentifier name)

/-- An expression in parentheses, after the opening one. -/
def parenthesized (size : Nat) (inner : Parser Expr) : Parser Expr := do
  let e ← inner
  expect size .closeParen
  return e

/-- An array literal, after the opening bracket. -/
def arrayItems (size : Nat) (inner : Parser Expr) : Parser Expr := do
  let items ← elements size .closeBracket inner
  expect size .closeBracket
  return .array items

/-- An object literal, after the opening brace. -/
def objectFields (scope : Scope) (inner : Parser Expr) : Parser Expr := do
  let fields ← elements scope.size .closeBrace (field scope inner)
  expect scope.size .closeBrace
  return .object fields

/-- A key in brackets, after the opening one. -/
def memberKey (size : Nat) (inner : Parser Expr) : Parser Expr := do
  let key ← inner
  expect size .closeBracket
  return key

/-- A literal, the parameter, an expression in parentheses, an array or an object; `inner` reads the
expressions inside. -/
def primary (scope : Scope) (inner : Parser Expr) : HeadParser Expr
  | .number value, rest => .ok ⟨.literal (numberValue value), rest, Nat.le_refl _⟩
  | .string value, rest => .ok ⟨.literal (.string value), rest, Nat.le_refl _⟩
  | .word name, rest => (wordExpr scope name).map fun e => ⟨e, rest, Nat.le_refl _⟩
  | .punct .openParen, rest => parenthesized scope.size inner rest
  | .punct .openBracket, rest => arrayItems scope.size inner rest
  | .punct .openBrace, rest => objectFields scope inner rest
  | .punct mark, _ => .error (.unexpectedPunct mark)

/-- The members that follow an expression: names after points and expressions in brackets. -/
def membersFrom (scope : Scope) (inner : Parser Expr) (base : Expr) : Parser Expr
  | .punct .dot :: rest =>
    match identifier scope.size rest with
    | .error e => .error e
    | .ok name =>
      have : name.rest.length < rest.length + 1 := Nat.lt_succ_of_le name.length_le
      (membersFrom scope inner (.member base (.literal (.string name.value))) name.rest).map
        (.weaken (Nat.le_of_lt this))
  | .punct .openBracket :: rest =>
    match memberKey scope.size inner rest with
    | .error e => .error e
    | .ok key =>
      have : key.rest.length < rest.length + 1 := Nat.lt_succ_of_le key.length_le
      (membersFrom scope inner (.member base key.value) key.rest).map
        (.weaken (Nat.le_of_lt this))
  | tokens => done base tokens
termination_by tokens => tokens.length

/-- An operand of the comparisons: negations, which `negated` reads, or a primary expression with
its members. -/
def operand (scope : Scope) (negated inner : Parser Expr) : Parser Expr
  | .punct .not :: rest =>
    ((negated.andThen fun e => done (Expr.not e)) rest).map (.weaken (Nat.le_succ _))
  | tokens =>
    (ofHead (primary scope inner) .endOfInput).andThen (membersFrom scope inner) tokens

/-- The comparisons of order. -/
def relational? : Punct → Option (Expr → Expr → Expr)
  | .lessEq => some (.compare .lessEq)
  | .greaterEq => some (.compare .greaterEq)
  | .less => some (.compare .less)
  | .greater => some (.compare .greater)
  | _ => none

/-- The comparisons of equality. -/
def equality? : Punct → Option (Expr → Expr → Expr)
  | .strictEq => some (.compare .strictEq)
  | .strictNe => some (.compare .strictNe)
  | .looseEq => some (.compare .looseEq)
  | .looseNe => some (.compare .looseNe)
  | _ => none

/-- The operator of conjunctions. -/
def conjunction? : Punct → Option (Expr → Expr → Expr)
  | .and => some .and
  | _ => none

/-- The operator of disjunctions. -/
def disjunction? : Punct → Option (Expr → Expr → Expr)
  | .or => some .or
  | _ => none

/-- An expression over the given operands: the operators bind in the order relational, equality,
conjunction, disjunction. -/
def expressionOver (operand : Parser Expr) : Parser Expr :=
  chain disjunction? <| chain conjunction? <| chain equality? <| chain relational? operand

/-- An operand, with `depth` levels of nesting left. -/
def operandAt (scope : Scope) : Nat → Parser Expr
  | 0 => operand scope (fail .tooDeep) (fail .tooDeep)
  | depth + 1 => operand scope (operandAt scope depth) (expressionOver (operandAt scope depth))

/-- An expression, with `depth` levels of nesting left, one of which it takes. -/
def expression (scope : Scope) : Nat → Parser Expr
  | 0 => fail .tooDeep
  | depth + 1 => expressionOver (operandAt scope depth)

/-! ### Statements -/

/-- The arguments of an emission, after its word. -/
def emission (scope : Scope) (depth : Nat) : Parser Stmt := do
  expect scope.size .openParen
  let arguments ← elements scope.size .closeParen (expression scope depth)
  expect scope.size .closeParen
  match arguments with
  | [] => return .emit none none
  | [key] => return .emit (some key) none
  | [key, value] => return .emit (some key) (some value)
  | _ => fail .tooManyArguments

/-- The statements up to the brace that closes a block, with that brace. -/
def statements (size : Nat) (statement : HeadParser Stmt) : Parser (List Stmt)
  | [] => .error .unterminatedBlock
  | token :: rest =>
    if token = .punct .closeBrace then .ok ⟨[], rest, Nat.le_succ _⟩
    else
      match statement token rest with
      | .error e => .error e
      | .ok first =>
        have : first.rest.length < rest.length + 1 := Nat.lt_succ_of_le first.length_le
        match statements size statement first.rest with
        | .error e => .error e
        | .ok others =>
          .ok ⟨first.value :: others.value, others.rest,
            Nat.le_trans others.length_le (Nat.le_of_lt this)⟩
termination_by tokens => tokens.length

/-- A choice, after its word: the condition in parentheses, a statement, and another one after
`else`. -/
def choice (scope : Scope) (depth : Nat) (statement : Parser Stmt) : Parser Stmt := do
  expect scope.size .openParen
  let condition ← expression scope depth
  expect scope.size .closeParen
  let yes ← statement
  if ← acceptWord "else" then
    let no ← statement
    return .branch condition yes (some no)
  else return .branch condition yes none

/-- A statement, with `depth` levels of nesting left, one of which it takes. -/
def statement (scope : Scope) : Nat → HeadParser Stmt
  | 0, _, _ => .error .tooDeep
  | depth + 1, token, rest =>
    match token with
    | .punct .semicolon => .ok ⟨.empty, rest, Nat.le_refl _⟩
    | .punct .openBrace =>
      ((statements scope.size (statement scope depth)).andThen fun body =>
        done (Stmt.block body)) rest
    | .word "if" =>
      let atEnd := if depth = 0 then .tooDeep else .unsupportedStatement scope.size
      choice scope depth (ofHead (statement scope depth) atEnd) rest
    | .word "emit" =>
      ((emission scope depth).andThen fun stmt => (accept .semicolon).andThen fun _ =>
        done stmt) rest
    | token => .error (.unsupportedStatement (scope.position (token :: rest)))

/-! ### Functions -/

/-- A block: statements in braces. -/
def block (scope : Scope) : Parser (List Stmt) := do
  expect scope.size .openBrace
  statements scope.size (statement scope maxDepth)

/-- The body of an arrow function: a block or one emission. -/
def arrowBody (scope : Scope) : Parser (List Stmt)
  | .word "emit" :: rest =>
    (((emission scope maxDepth).andThen fun stmt => done [stmt]) rest).map
      (.weaken (Nat.le_succ _))
  | .punct .openBrace :: rest => block scope (.punct .openBrace :: rest)
  | tokens => .error (.unsupportedStatement (scope.position tokens))

/-- The parameter in its parentheses. -/
def parameterList (size : Nat) : Parser String := do
  expect size .openParen
  let name ← identifier size
  expect size .closeParen
  return name

/-- The parameter of an arrow function, in parentheses or not. -/
def arrowParameter (size : Nat) : Parser String := do
  if ← accept .openParen then
    let name ← identifier size
    expect size .closeParen
    return name
  else identifier size

/-- The name of a function, if it has one. -/
def functionName : Parser Unit
  | .word _ :: rest => .ok ⟨(), rest, Nat.le_succ _⟩
  | tokens => done () tokens

/-- A function: the name of its parameter and its body. -/
def function (size : Nat) : Parser (String × List Stmt) := do
  if ← acceptWord "function" then
    functionName
    let parameter ← parameterList size
    let body ← block ⟨parameter, size⟩
    return (parameter, body)
  else
    let parameter ← arrowParameter size
    expect size .arrow
    let body ← arrowBody ⟨parameter, size⟩
    return (parameter, body)

/-- Whether tokens start with the parameter of an arrow function in parentheses. -/
def startsArrow : List Token → Bool
  | .punct .openParen :: .word _ :: .punct .closeParen :: .punct .arrow :: _ => true
  | _ => false

/-- A function and the parenthesis that closes it. -/
def closedFunction (size : Nat) : Parser (String × List Stmt) := do
  let read ← function size
  expect size .closeParen
  return read

/-- A function, in parentheses or not. -/
def wrappedFunction (size : Nat) : Parser (String × List Stmt)
  | .punct .openParen :: rest =>
    if startsArrow (.punct .openParen :: rest) then function size (.punct .openParen :: rest)
    else (closedFunction size rest).map (.weaken (Nat.le_succ _))
  | tokens => function size tokens

/-- The whole source: a function, semicolons and nothing more. -/
def program (tokens : List Token) : Except GrammarError (String × List Stmt) :=
  match wrappedFunction tokens.length tokens with
  | .error e => .error e
  | .ok read =>
    if (read.rest.dropWhile (· = .punct .semicolon)).isEmpty then .ok read.value
    else .error .trailingInput

end DocumentDb.MapFunction
