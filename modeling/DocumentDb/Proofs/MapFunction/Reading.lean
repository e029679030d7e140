import DocumentDb.MapFunction.Parser
import Mathlib.Data.List.TakeWhile
import Mathlib.Tactic.Common

/-!
# What the parsers read

`Reads p tokens value rest` says that the parser `p` reads a beginning of the tokens as `value` and
leaves `rest`. For each combinator there is one equivalence that says all it can read, so what a
parser built from them reads follows without opening its definition.
-/

namespace DocumentDb.MapFunction

variable {α β : Type} {tokens rest : List Token}

/-! ### Answers -/

/-- The answer of a parser is `value`, with `rest` left. -/
def Gives {n : Nat} (answer : Except GrammarError (Parsed α n)) (value : α) (rest : List Token) :
    Prop :=
  ∃ h, answer = .ok ⟨value, rest, h⟩

@[simp] lemma gives_ok {n : Nat} {read : Parsed α n} {value : α} :
    Gives (.ok read) value rest ↔ value = read.value ∧ rest = read.rest := by
  constructor
  · rintro ⟨_, h⟩
    cases h
    exact ⟨rfl, rfl⟩
  · rintro ⟨rfl, rfl⟩
    exact ⟨read.length_le, rfl⟩

@[simp] lemma gives_error {n : Nat} {error : GrammarError} {value : α} :
    ¬ Gives (.error error : Except GrammarError (Parsed α n)) value rest := by
  rintro ⟨_, h⟩
  cases h

@[simp] lemma gives_map_weaken {m n : Nat} {h : m ≤ n} {answer : Except GrammarError (Parsed α m)}
    {value : α} : Gives (answer.map (Parsed.weaken h)) value rest ↔ Gives answer value rest := by
  cases answer <;> simp [Except.map, Parsed.weaken]

/-- The parser reads a token and a beginning of those behind it as `value` and leaves `rest`. -/
def HeadParser.Reads (parser : HeadParser α) (token : Token) (tokens : List Token) (value : α)
    (rest : List Token) : Prop :=
  Gives (parser token tokens) value rest

namespace Parser

/-- The parser reads a beginning of the tokens as `value` and leaves `rest`. -/
def Reads (parser : Parser α) (tokens : List Token) (value : α) (rest : List Token) : Prop :=
  Gives (parser tokens) value rest

/-! ### Combinators -/

@[simp] lemma reads_done {value v : α} :
    (done v).Reads tokens value rest ↔ value = v ∧ rest = tokens :=
  gives_ok

@[simp] lemma reads_pure {value v : α} :
    (pure v : Parser α).Reads tokens value rest ↔ value = v ∧ rest = tokens :=
  gives_ok

@[simp] lemma reads_fail {error : GrammarError} {value : α} :
    ¬ (fail error).Reads tokens value rest :=
  gives_error

@[simp] lemma reads_andThen {first : Parser α} {second : α → Parser β} {value : β} :
    (first.andThen second).Reads tokens value rest ↔
      ∃ one middle, first.Reads tokens one middle ∧ (second one).Reads middle value rest := by
  simp only [Reads, andThen]
  cases first tokens with
  | error e => simp
  | ok one =>
    simp only [gives_ok, exists_and_left, exists_eq_left, and_assoc]
    cases second one.value one.rest <;> simp [Parsed.weaken]

@[simp] lemma reads_bind {first : Parser α} {second : α → Parser β} {value : β} :
    (first >>= second).Reads tokens value rest ↔
      ∃ one middle, first.Reads tokens one middle ∧ (second one).Reads middle value rest :=
  reads_andThen

@[simp] lemma reads_ofHead {parser : HeadParser α} {atEnd : GrammarError} {value : α} :
    (ofHead parser atEnd).Reads tokens value rest ↔
      ∃ token behind, tokens = token :: behind ∧ parser.Reads token behind value rest := by
  cases tokens <;> simp [Reads, ofHead, HeadParser.Reads]

/-! ### Single tokens -/

@[simp] lemma reads_accept {mark : Punct} {came : Bool} :
    (accept mark).Reads tokens came rest ↔
      came = true ∧ tokens = .punct mark :: rest ∨
        came = false ∧ rest = tokens ∧ tokens.head? ≠ some (.punct mark) := by
  unfold Reads accept
  split
  · split <;> simp_all [done, eq_comm]
  · simp_all [done, List.head?_eq_some_iff]

@[simp] lemma reads_acceptWord {name : String} {came : Bool} :
    (acceptWord name).Reads tokens came rest ↔
      came = true ∧ tokens = .word name :: rest ∨
        came = false ∧ rest = tokens ∧ tokens.head? ≠ some (.word name) := by
  unfold Reads acceptWord
  split
  · split <;> simp_all [done, eq_comm]
  · simp_all [done, List.head?_eq_some_iff]

@[simp] lemma reads_expect {size : Nat} {mark : Punct} {value : Unit} :
    (expect size mark).Reads tokens value rest ↔ tokens = .punct mark :: rest := by
  unfold Reads expect
  split
  · split <;> simp_all [eq_comm]
  · simp_all

@[simp] lemma reads_identifier {size : Nat} {name : String} :
    (identifier size).Reads tokens name rest ↔ tokens = .word name :: rest := by
  unfold Reads identifier
  split
  · simp_all [eq_comm]
  · simp_all

/-! ### Expressions -/

lemma reads_chainFrom {operator? : Punct → Option (Expr → Expr → Expr)} {operand : Parser Expr}
    {left value : Expr} :
    (chainFrom operator? operand left).Reads tokens value rest ↔
      value = left ∧ rest = tokens ∧
          (∀ mark, tokens.head? = some (.punct mark) → operator? mark = none) ∨
        ∃ mark operator behind right middle, tokens = .punct mark :: behind ∧
          operator? mark = some operator ∧ operand.Reads behind right middle ∧
          (chainFrom operator? operand (operator left right)).Reads middle value rest := by
  conv_lhs => unfold Reads chainFrom
  split
  · rename_i mark behind
    cases hoperator : operator? mark with
    | none => simp [hoperator, done]
    | some operator =>
      cases hoperand : operand behind <;> simp [Reads, hoperator, hoperand]
  · simp_all [done, List.head?_eq_some_iff]

/-- Elements of a list, as far as the closing mark. -/
lemma reads_elements {size : Nat} {close : Punct} {element : Parser α} {values : List α} :
    (elements size close element).Reads tokens values rest ↔
      values = [] ∧ rest = tokens ∧ tokens.head? = some (.punct close) ∨
        tokens.head? ≠ some (.punct close) ∧ ∃ first middle, element.Reads tokens first middle ∧
          (values = [first] ∧ rest = middle ∧ middle.head? ≠ some (.punct .comma) ∨
            ∃ behind others, middle = .punct .comma :: behind ∧ values = first :: others ∧
              (elements size close element).Reads behind others rest) := by
  conv_lhs => unfold Reads elements
  split
  · simp_all [done]
  · rename_i hclose
    cases helement : element tokens with
    | error e => simp [Reads, hclose, helement]
    | ok first =>
      simp only [Reads, hclose, helement, gives_ok, and_false, false_or, ne_eq,
        not_false_eq_true, true_and, and_assoc, exists_and_left, exists_eq_left]
      split
      · rename_i behind hcomma
        cases hothers : elements size close element behind <;> simp [hcomma, hothers]
      · rename_i hcomma
        simp_all [List.head?_eq_some_iff]

/-- What holds of every element that can be read holds of those that are read. -/
lemma forall_elements {α : Type} {P : α → Prop} {element : Parser α}
    (helement : ∀ ⦃tokens value rest⦄, element.Reads tokens value rest → P value) {size : Nat}
    {close : Punct} {values : List α}
    (hreads : (elements size close element).Reads tokens values rest) :
    ∀ value ∈ values, P value := by
  induction values generalizing tokens with
  | nil => simp
  | cons value values ih =>
    obtain ⟨h, -, -⟩ | ⟨-, first, middle, hfirst, ⟨h, -, -⟩ | ⟨behind, others, -, h, hothers⟩⟩ :=
      reads_elements.mp hreads
    · cases h
    · cases h
      simpa using helement hfirst
    · cases h
      exact List.forall_mem_cons.mpr ⟨helement hfirst, ih hothers⟩

@[simp] lemma reads_memberKey {size : Nat} {inner : Parser Expr} {key : Expr} :
    (memberKey size inner).Reads tokens key rest ↔
      inner.Reads tokens key (.punct .closeBracket :: rest) := by
  simp [memberKey]

lemma reads_membersFrom {scope : Scope} {inner : Parser Expr} {base value : Expr} :
    (membersFrom scope inner base).Reads tokens value rest ↔
      value = base ∧ rest = tokens ∧ tokens.head? ≠ some (.punct .dot) ∧
          tokens.head? ≠ some (.punct .openBracket) ∨
        (∃ behind name middle, tokens = .punct .dot :: behind ∧
          (identifier scope.size).Reads behind name middle ∧
          (membersFrom scope inner (.member base (.literal (.string name)))).Reads middle value
            rest) ∨
        ∃ behind key middle, tokens = .punct .openBracket :: behind ∧
          (memberKey scope.size inner).Reads behind key middle ∧
          (membersFrom scope inner (.member base key)).Reads middle value rest := by
  conv_lhs => unfold Reads membersFrom
  split
  · rename_i behind
    cases hname : identifier scope.size behind <;> simp [Reads, hname]
  · rename_i behind
    cases hkey : memberKey scope.size inner behind <;> simp [Reads, hkey]
  · simp_all [done, List.head?_eq_some_iff]

@[simp] lemma reads_fieldKey {key : String} :
    fieldKey.Reads tokens key rest ↔ tokens = .word key :: rest ∨ tokens = .string key :: rest := by
  unfold Reads fieldKey
  split <;> simp_all [eq_comm]

lemma reads_primary {scope : Scope} {inner : Parser Expr} {token : Token} {value : Expr} :
    (primary scope inner).Reads token tokens value rest ↔
      (∃ n, token = .number n ∧ value = .literal (numberValue n) ∧ rest = tokens) ∨
        (∃ s, token = .string s ∧ value = .literal (.string s) ∧ rest = tokens) ∨
        (∃ name, token = .word name ∧ wordExpr scope name = .ok value ∧ rest = tokens) ∨
        token = .punct .openParen ∧ (parenthesized scope.size inner).Reads tokens value rest ∨
        token = .punct .openBracket ∧ (arrayItems scope.size inner).Reads tokens value rest ∨
        token = .punct .openBrace ∧ (objectFields scope inner).Reads tokens value rest := by
  cases token with
  | number n => simp [HeadParser.Reads, primary]
  | string s => simp [HeadParser.Reads, primary]
  | word name =>
    cases hname : wordExpr scope name <;>
      simp [HeadParser.Reads, primary, hname, Except.map, eq_comm]
  | punct mark => cases mark <;> simp [HeadParser.Reads, primary, Reads]

lemma reads_operand {scope : Scope} {negated inner : Parser Expr} {value : Expr} :
    (operand scope negated inner).Reads tokens value rest ↔
      (∃ behind e, tokens = .punct .not :: behind ∧ negated.Reads behind e rest ∧
          value = .not e) ∨
        tokens.head? ≠ some (.punct .not) ∧ ∃ base middle,
          (ofHead (primary scope inner) .endOfInput).Reads tokens base middle ∧
            (membersFrom scope inner base).Reads middle value rest := by
  conv_lhs => unfold Reads operand
  split
  · rename_i behind
    rw [gives_map_weaken]
    change (negated.andThen fun e => done (Expr.not e)).Reads behind value rest ↔ _
    simp
  · rename_i hnot
    change ((ofHead (primary scope inner) .endOfInput).andThen
      (membersFrom scope inner)).Reads tokens value rest ↔ _
    rw [reads_andThen]
    simp_all [List.head?_eq_some_iff]

/-! ### Statements -/

lemma reads_statements {size : Nat} {statement : HeadParser Stmt} {body : List Stmt} :
    (statements size statement).Reads tokens body rest ↔
      body = [] ∧ tokens = .punct .closeBrace :: rest ∨
        ∃ token behind first middle others, tokens = token :: behind ∧
          token ≠ .punct .closeBrace ∧ statement.Reads token behind first middle ∧
          (statements size statement).Reads middle others rest ∧ body = first :: others := by
  conv_lhs => unfold Reads statements
  split
  · simp
  · rename_i token behind
    split
    · simp_all [eq_comm]
    · rename_i hclose
      cases hstatement : statement token behind with
      | error e => simp_all [HeadParser.Reads]
      | ok first =>
        cases hothers : statements size statement first.rest <;>
          simp_all [HeadParser.Reads, Reads, and_comm]

lemma reads_emission {scope : Scope} {depth : Nat} {stmt : Stmt} :
    (emission scope depth).Reads tokens stmt rest ↔ ∃ behind arguments,
      tokens = .punct .openParen :: behind ∧
        (elements scope.size .closeParen (expression scope depth)).Reads behind arguments
          (.punct .closeParen :: rest) ∧
        arguments.length ≤ 2 ∧ stmt = .emit arguments[0]? arguments[1]? := by
  simp only [emission, reads_bind, reads_expect]
  constructor
  · rintro ⟨-, behind, rfl, arguments, _, harguments, -, rest, rfl, hmatch⟩
    match arguments, harguments, hmatch with
    | [], harguments, hmatch =>
      obtain ⟨rfl, rfl⟩ := reads_pure.mp hmatch
      exact ⟨behind, [], rfl, harguments, by decide, rfl⟩
    | [key], harguments, hmatch =>
      obtain ⟨rfl, rfl⟩ := reads_pure.mp hmatch
      exact ⟨behind, [key], rfl, harguments, Nat.le_succ 1, rfl⟩
    | [key, value], harguments, hmatch =>
      obtain ⟨rfl, rfl⟩ := reads_pure.mp hmatch
      exact ⟨behind, [key, value], rfl, harguments, Nat.le_refl 2, rfl⟩
    | _ :: _ :: _ :: _, _, hmatch => exact absurd hmatch reads_fail
  · rintro ⟨behind, arguments, rfl, harguments, hlength, rfl⟩
    refine ⟨(), behind, rfl, arguments, _, harguments, (), rest, rfl, ?_⟩
    match arguments, hlength with
    | [], _ | [_], _ | [_, _], _ => exact reads_pure.mpr ⟨rfl, rfl⟩

lemma reads_choice {scope : Scope} {depth : Nat} {statement : Parser Stmt} {stmt : Stmt} :
    (choice scope depth statement).Reads tokens stmt rest ↔ ∃ behind condition middle yes after,
      tokens = .punct .openParen :: behind ∧
        (expression scope depth).Reads behind condition (.punct .closeParen :: middle) ∧
        statement.Reads middle yes after ∧
        ((∃ later no, after = .word "else" :: later ∧ statement.Reads later no rest ∧
            stmt = .branch condition yes (some no)) ∨
          after.head? ≠ some (.word "else") ∧ rest = after ∧
            stmt = .branch condition yes none) := by
  simp only [choice, reads_bind, reads_expect, reads_acceptWord]
  constructor
  · rintro ⟨-, behind, rfl, condition, _, hcondition, -, middle, rfl, yes, after, hyes, came, later,
      ⟨rfl, rfl⟩ | ⟨rfl, rfl, helse⟩, hmore⟩
    · simp only [if_true, reads_bind, reads_pure] at hmore
      obtain ⟨no, _, hno, rfl, rfl⟩ := hmore
      exact ⟨behind, condition, middle, yes, _, rfl, hcondition, hyes,
        .inl ⟨later, no, rfl, hno, rfl⟩⟩
    · simp only [Bool.false_eq_true, if_false, reads_pure] at hmore
      obtain ⟨rfl, rfl⟩ := hmore
      exact ⟨behind, condition, middle, yes, _, rfl, hcondition, hyes, .inr ⟨helse, rfl, rfl⟩⟩
  · rintro ⟨behind, condition, middle, yes, after, rfl, hcondition, hyes,
      ⟨later, no, rfl, hno, rfl⟩ | ⟨helse, rfl, rfl⟩⟩
    · refine ⟨(), behind, rfl, condition, _, hcondition, (), middle, rfl, yes, _, hyes, true, later,
        .inl ⟨rfl, rfl⟩, ?_⟩
      simp only [if_true, reads_bind, reads_pure]
      exact ⟨no, rest, hno, rfl, rfl⟩
    · refine ⟨(), behind, rfl, condition, _, hcondition, (), middle, rfl, yes, _, hyes, false, _,
        .inr ⟨rfl, rfl, helse⟩, ?_⟩
      simp

lemma reads_statement_zero {scope : Scope} {token : Token} {stmt : Stmt} :
    ¬ (statement scope 0).Reads token tokens stmt rest :=
  gives_error

lemma reads_statement_succ {scope : Scope} {depth : Nat} {token : Token} {stmt : Stmt} :
    (statement scope (depth + 1)).Reads token tokens stmt rest ↔
      token = .punct .semicolon ∧ stmt = .empty ∧ rest = tokens ∨
        (∃ body, token = .punct .openBrace ∧
          (statements scope.size (statement scope depth)).Reads tokens body rest ∧
            stmt = .block body) ∨
        (∃ atEnd, token = .word "if" ∧
          (choice scope depth (ofHead (statement scope depth) atEnd)).Reads tokens stmt rest) ∨
        ∃ middle, token = .word "emit" ∧ (emission scope depth).Reads tokens stmt middle ∧
          (middle = .punct .semicolon :: rest ∨
            rest = middle ∧ middle.head? ≠ some (.punct .semicolon)) := by
  unfold HeadParser.Reads statement
  split
  · simp
  · change ((statements scope.size (statement scope depth)).andThen fun body =>
        done (Stmt.block body)).Reads tokens stmt rest ↔ _
    simp
  · change (choice scope depth (ofHead (statement scope depth) _)).Reads tokens stmt rest ↔ _
    constructor
    · intro h
      exact .inr (.inr (.inl ⟨_, rfl, h⟩))
    · rintro (⟨h, -⟩ | ⟨_, h, -⟩ | ⟨atEnd, -, h⟩ | ⟨_, h, -⟩)
      case inr.inr.inl =>
        -- What is said at the end of the tokens does not matter to what is read.
        simp only [reads_choice, reads_ofHead] at h ⊢
        exact h
      all_goals exact absurd h (by decide)
  · change ((emission scope depth).andThen fun stmt => (accept .semicolon).andThen fun _ =>
        done stmt).Reads tokens stmt rest ↔ _
    simp [or_comm]
  · rename_i hsemicolon hbrace hif hemit
    refine iff_of_false gives_error ?_
    rintro (⟨h, -⟩ | ⟨_, h, -⟩ | ⟨_, h, -⟩ | ⟨_, h, -⟩)
    · exact hsemicolon h
    · exact hbrace h
    · exact hif h
    · exact hemit h

/-! ### Functions -/

@[simp] lemma reads_block {scope : Scope} {body : List Stmt} :
    (block scope).Reads tokens body rest ↔ ∃ behind, tokens = .punct .openBrace :: behind ∧
      (statements scope.size (statement scope maxDepth)).Reads behind body rest := by
  simp [block]

lemma reads_arrowBody {scope : Scope} {body : List Stmt} :
    (arrowBody scope).Reads tokens body rest ↔
      (∃ behind stmt, tokens = .word "emit" :: behind ∧
          (emission scope maxDepth).Reads behind stmt rest ∧ body = [stmt]) ∨
        (block scope).Reads tokens body rest := by
  conv_lhs => unfold Reads arrowBody
  split
  · rw [gives_map_weaken]
    change ((emission scope maxDepth).andThen fun stmt => done [stmt]).Reads _ body rest ↔ _
    simp
  · change (block scope).Reads _ body rest ↔ _
    simp
  · simp_all

@[simp] lemma reads_parameterList {size : Nat} {parameter : String} :
    (parameterList size).Reads tokens parameter rest ↔
      tokens = .punct .openParen :: .word parameter :: .punct .closeParen :: rest := by
  simp [parameterList]

@[simp] lemma reads_arrowParameter {size : Nat} {parameter : String} :
    (arrowParameter size).Reads tokens parameter rest ↔
      tokens = .punct .openParen :: .word parameter :: .punct .closeParen :: rest ∨
        tokens = .word parameter :: rest := by
  simp only [arrowParameter, reads_bind, reads_accept]
  constructor
  · rintro ⟨_, _, ⟨rfl, rfl⟩ | ⟨rfl, rfl, -⟩, h⟩
    · exact .inl (by simpa using h)
    · exact .inr (by simpa using h)
  · rintro (rfl | rfl)
    · exact ⟨true, _, .inl ⟨rfl, rfl⟩, by simp⟩
    · exact ⟨false, _, .inr ⟨rfl, rfl, by simp⟩, by simp⟩

@[simp] lemma reads_functionName {name : Unit} :
    functionName.Reads tokens name rest ↔
      (∃ name, tokens = .word name :: rest) ∨
        rest = tokens ∧ ∀ name, tokens.head? ≠ some (.word name) := by
  unfold Reads functionName
  split <;> simp_all [List.head?_eq_some_iff, done, eq_comm]

lemma reads_function {size : Nat} {parameter : String} {body : List Stmt} :
    (function size).Reads tokens (parameter, body) rest ↔
      (∃ behind middle after, tokens = .word "function" :: behind ∧
          functionName.Reads behind () middle ∧
          (parameterList size).Reads middle parameter after ∧
          (block ⟨parameter, size⟩).Reads after body rest) ∨
        tokens.head? ≠ some (.word "function") ∧ ∃ behind,
          (arrowParameter size).Reads tokens parameter (.punct .arrow :: behind) ∧
            (arrowBody ⟨parameter, size⟩).Reads behind body rest := by
  simp only [function, reads_bind, reads_acceptWord]
  constructor
  · rintro ⟨_, behind, ⟨rfl, rfl⟩ | ⟨rfl, rfl, hword⟩, h⟩
    · simp only [if_true, reads_bind, reads_pure, Prod.mk.injEq] at h
      obtain ⟨_, middle, hname, _, after, hparameter, _, _, hbody, ⟨rfl, rfl⟩, rfl⟩ := h
      exact .inl ⟨behind, middle, after, rfl, hname, hparameter, hbody⟩
    · simp only [Bool.false_eq_true, if_false, reads_bind, reads_expect, reads_pure,
        Prod.mk.injEq] at h
      obtain ⟨_, _, hparameter, _, behind, rfl, _, _, hbody, ⟨rfl, rfl⟩, rfl⟩ := h
      exact .inr ⟨hword, behind, hparameter, hbody⟩
  · rintro (⟨behind, middle, after, rfl, hname, hparameter, hbody⟩ |
      ⟨hword, behind, hparameter, hbody⟩)
    · refine ⟨true, behind, .inl ⟨rfl, rfl⟩, ?_⟩
      simp only [if_true, reads_bind, reads_pure, Prod.mk.injEq]
      exact ⟨(), middle, hname, _, after, hparameter, _, _, hbody, ⟨rfl, rfl⟩, rfl⟩
    · refine ⟨false, tokens, .inr ⟨rfl, rfl, hword⟩, ?_⟩
      simp only [Bool.false_eq_true, if_false, reads_bind, reads_expect, reads_pure,
        Prod.mk.injEq]
      exact ⟨_, _, hparameter, (), behind, rfl, _, _, hbody, ⟨rfl, rfl⟩, rfl⟩

/-- Whether the whole function stands in parentheses. -/
def Wrapped (tokens : List Token) : Prop :=
  tokens.head? = some (.punct .openParen) ∧ startsArrow tokens = false

lemma reads_wrappedFunction {size : Nat} {value : String × List Stmt} :
    (wrappedFunction size).Reads tokens value rest ↔
      ¬ Wrapped tokens ∧ (function size).Reads tokens value rest ∨
        Wrapped tokens ∧ ∃ behind, tokens = .punct .openParen :: behind ∧
          (function size).Reads behind value (.punct .closeParen :: rest) := by
  unfold Reads wrappedFunction
  split
  · rename_i behind
    split
    · rename_i harrow
      simp [Wrapped, harrow]
    · rename_i harrow
      rw [gives_map_weaken]
      change (closedFunction size).Reads behind value rest ↔ _
      simp only [closedFunction, reads_bind, reads_expect, reads_pure]
      simp [Wrapped, harrow, Reads]
  · rename_i hparen
    have hwrapped : ¬ Wrapped tokens := by
      rintro ⟨hhead, -⟩
      obtain ⟨behind, rfl⟩ := List.head?_eq_some_iff.mp hhead
      exact hparen behind rfl
    simp [hwrapped]

end Parser

open MapFunction.Parser

/-- A whole source is a function with nothing but semicolons behind it. -/
lemma program_eq_ok_iff {read : String × List Stmt} :
    program tokens = .ok read ↔ ∃ rest, (wrappedFunction tokens.length).Reads tokens read rest ∧
      ∀ token ∈ rest, token = .punct .semicolon := by
  unfold program
  cases h : wrappedFunction tokens.length tokens with
  | error e => simp [Reads, h]
  | ok answer =>
    have hempty : (answer.rest.dropWhile (· = .punct .semicolon)).isEmpty ↔
        ∀ token ∈ answer.rest, token = .punct .semicolon := by
      simp [List.dropWhile_eq_nil_iff]
    simp only [Reads, h, gives_ok, and_assoc, exists_and_left, exists_eq_left, ← hempty]
    by_cases hrest : (answer.rest.dropWhile (· = .punct .semicolon)).isEmpty <;>
      simp [hrest, eq_comm]

end DocumentDb.MapFunction
