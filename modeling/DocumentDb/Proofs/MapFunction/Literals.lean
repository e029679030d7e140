import DocumentDb.MapFunction.Basic
import DocumentDb.Proofs.Json.Equality
import DocumentDb.Proofs.MapFunction.Reading

/-!
# The literals of compiled functions

A source has literals for `null`, booleans, numbers and strings. Arrays and objects are written as
expressions, so no literal of a compiled function is an array or an object.
-/

namespace DocumentDb.MapFunction

open MapFunction.Parser

variable {tokens rest : List Token} {scope : Scope} {value : Expr} {stmt : Stmt}

/-! ### Plain expressions and statements -/

/-- No literal in an expression is an array or an object. -/
inductive Expr.Plain : Expr → Prop
  | literal {value : Json} (h : value.isScalar = true) : Plain (.literal value)
  | undefined : Plain .undefined
  | parameter : Plain .parameter
  | member {base key : Expr} (hbase : Plain base) (hkey : Plain key) : Plain (.member base key)
  | array {items : List Expr} (h : ∀ item ∈ items, Plain item) : Plain (.array items)
  | object {fields : List (String × Expr)} (h : ∀ field ∈ fields, Plain field.2) :
      Plain (.object fields)
  | not {operand : Expr} (h : Plain operand) : Plain (.not operand)
  | and {left right : Expr} (hleft : Plain left) (hright : Plain right) : Plain (.and left right)
  | or {left right : Expr} (hleft : Plain left) (hright : Plain right) : Plain (.or left right)
  | compare {left right : Expr} (operator : Comparison) (hleft : Plain left)
      (hright : Plain right) : Plain (.compare operator left right)

/-- No literal in a statement is an array or an object. -/
inductive Stmt.Plain : Stmt → Prop
  | emit {key value : Option Expr} (hkey : ∀ e ∈ key, e.Plain) (hvalue : ∀ e ∈ value, e.Plain) :
      Plain (.emit key value)
  | branch {condition : Expr} {yes : Stmt} {no : Option Stmt} (hcondition : condition.Plain)
      (hyes : Plain yes) (hno : ∀ stmt ∈ no, Plain stmt) : Plain (.branch condition yes no)
  | block {body : List Stmt} (h : ∀ stmt ∈ body, Plain stmt) : Plain (.block body)
  | empty : Plain .empty

/-! ### What the parsers build -/

/-- All expressions that can be read are plain. -/
def ReadsPlain (parser : Parser Expr) : Prop :=
  ∀ ⦃tokens value rest⦄, parser.Reads tokens value rest → value.Plain

lemma readsPlain_fail {error : GrammarError} : ReadsPlain (fail error) := by
  intro tokens value rest hreads
  exact absurd hreads reads_fail

section Chain

variable {operator? : Punct → Option (Expr → Expr → Expr)} {operand : Parser Expr}

/-- The operators make plain expressions of plain ones. -/
def JoinsPlain (operator? : Punct → Option (Expr → Expr → Expr)) : Prop :=
  ∀ ⦃mark operator⦄, operator? mark = some operator →
    ∀ left right, left.Plain → right.Plain → (operator left right).Plain

lemma plain_chainFrom (hjoins : JoinsPlain operator?) (hoperand : ReadsPlain operand) {left : Expr}
    (hleft : left.Plain) (hreads : (chainFrom operator? operand left).Reads tokens value rest) :
    value.Plain := by
  induction hlength : tokens.length using Nat.strongRecOn generalizing tokens left with
  | _ m ih =>
    obtain ⟨rfl, -, -⟩ | ⟨mark, operator, behind, right, middle, rfl, hoperator, hright, hmore⟩ :=
      reads_chainFrom.mp hreads
    · exact hleft
    · have hlt : middle.length < m := by
        have := hright.fst
        rw [← hlength, List.length_cons]
        omega
      exact ih middle.length hlt (hjoins hoperator left right hleft (hoperand hright)) hmore rfl

lemma ReadsPlain.chain (hoperand : ReadsPlain operand) (hjoins : JoinsPlain operator?) :
    ReadsPlain (chain operator? operand) := by
  intro tokens value rest hreads
  obtain ⟨first, middle, hfirst, hmore⟩ := reads_andThen.mp hreads
  exact plain_chainFrom hjoins hoperand (hoperand hfirst) hmore

end Chain

lemma ReadsPlain.expressionOver {operand : Parser Expr} (hoperand : ReadsPlain operand) :
    ReadsPlain (expressionOver operand) := by
  have hrelational : JoinsPlain relational? := by
    rintro (_ | _) _ ⟨⟩ left right <;> exact .compare _
  have hequality : JoinsPlain equality? := by
    rintro (_ | _) _ ⟨⟩ left right <;> exact .compare _
  have hconjunction : JoinsPlain conjunction? := by
    rintro (_ | _) _ ⟨⟩ left right
    exact .and
  have hdisjunction : JoinsPlain disjunction? := by
    rintro (_ | _) _ ⟨⟩ left right
    exact .or
  exact (((hoperand.chain hrelational).chain hequality).chain hconjunction).chain hdisjunction

lemma plain_membersFrom {inner : Parser Expr} (hinner : ReadsPlain inner) {base : Expr}
    (hbase : base.Plain) (hreads : (membersFrom scope inner base).Reads tokens value rest) :
    value.Plain := by
  induction hlength : tokens.length using Nat.strongRecOn generalizing tokens base with
  | _ m ih =>
    obtain ⟨rfl, -⟩ | ⟨behind, name, middle, rfl, hname, hmore⟩ |
      ⟨behind, key, middle, rfl, hkey, hmore⟩ := reads_membersFrom.mp hreads
    · exact hbase
    · have hlt : middle.length < m := by
        have := hname.fst
        rw [← hlength, List.length_cons]
        omega
      exact ih middle.length hlt (.member hbase (.literal rfl)) hmore rfl
    · have hlt : middle.length < m := by
        have := hkey.fst
        rw [← hlength, List.length_cons]
        omega
      exact ih middle.length hlt (.member hbase (hinner (reads_memberKey.mp hkey))) hmore rfl

/-! ### Operands and expressions -/

lemma isScalar_numberValue (n : Extended) : (numberValue n).isScalar = true := by
  cases n with
  | finite x =>
    rw [numberValue]
    split <;> rfl
  | infinite | notANumber => rfl

lemma plain_wordExpr {name : String} (h : wordExpr scope name = .ok value) : value.Plain := by
  unfold wordExpr at h
  split at h
  case h_4 =>
    cases h
    exact .undefined
  case h_5 =>
    split at h
    · cases h
      exact .parameter
    · cases h
  all_goals
    cases h
    exact .literal rfl

lemma ReadsPlain.primary {inner : Parser Expr} (hinner : ReadsPlain inner) :
    ReadsPlain (ofHead (primary scope inner) .endOfInput) := by
  intro tokens value rest hreads
  obtain ⟨token, behind, -, hprimary⟩ := reads_ofHead.mp hreads
  obtain ⟨n, -, rfl, -⟩ | ⟨_, -, rfl, -⟩ | ⟨name, -, hname, -⟩ | ⟨-, hinside⟩ | ⟨-, hinside⟩ |
    ⟨-, hinside⟩ := reads_primary.mp hprimary
  · exact .literal (isScalar_numberValue n)
  · exact .literal rfl
  · exact plain_wordExpr hname
  · simp only [parenthesized, reads_bind, reads_pure] at hinside
    obtain ⟨e, _, he, -, _, -, rfl, -⟩ := hinside
    exact hinner he
  · simp only [arrayItems, reads_bind, reads_pure] at hinside
    obtain ⟨items, _, hitems, -, _, -, rfl, -⟩ := hinside
    exact .array (forall_elements hinner hitems)
  · simp only [objectFields, reads_bind, reads_pure] at hinside
    obtain ⟨fields, _, hfields, -, _, -, rfl, -⟩ := hinside
    refine .object (forall_elements ?_ hfields)
    intro tokens value rest hfield
    simp only [field, reads_bind, reads_pure] at hfield
    obtain ⟨_, _, -, -, _, -, e, _, he, rfl, -⟩ := hfield
    exact hinner he

lemma ReadsPlain.operand {negated inner : Parser Expr} (hnegated : ReadsPlain negated)
    (hinner : ReadsPlain inner) : ReadsPlain (operand scope negated inner) := by
  intro tokens value rest hreads
  obtain ⟨_, e, -, he, rfl⟩ | ⟨-, base, middle, hbase, hmore⟩ := reads_operand.mp hreads
  · exact .not (hnegated he)
  · exact plain_membersFrom hinner (hinner.primary hbase) hmore

lemma readsPlain_operandAt (scope : Scope) (depth : Nat) : ReadsPlain (operandAt scope depth) := by
  induction depth with
  | zero => exact readsPlain_fail.operand readsPlain_fail
  | succ depth ih => exact ih.operand ih.expressionOver

lemma readsPlain_expression (scope : Scope) (depth : Nat) :
    ReadsPlain (expression scope depth) := by
  cases depth with
  | zero => exact readsPlain_fail
  | succ depth => exact (readsPlain_operandAt scope depth).expressionOver

/-! ### Statements -/

lemma plain_emission {depth : Nat} (hreads : (emission scope depth).Reads tokens stmt rest) :
    stmt.Plain := by
  obtain ⟨_, arguments, -, harguments, -, rfl⟩ := reads_emission.mp hreads
  have hall := forall_elements (readsPlain_expression scope depth) harguments
  exact .emit (fun e he => hall e (List.mem_of_getElem? he))
    (fun e he => hall e (List.mem_of_getElem? he))

lemma plain_statements {statement : HeadParser Stmt}
    (hstatement : ∀ ⦃token behind stmt rest⦄, statement.Reads token behind stmt rest → stmt.Plain)
    {size : Nat} {body : List Stmt} (hreads : (statements size statement).Reads tokens body rest) :
    ∀ stmt ∈ body, stmt.Plain := by
  induction body generalizing tokens with
  | nil => simp
  | cons stmt body ih =>
    obtain ⟨h, -⟩ | ⟨token, behind, first, middle, others, -, -, hfirst, hothers, h⟩ :=
      reads_statements.mp hreads
    · cases h
    · cases h
      exact List.forall_mem_cons.mpr ⟨hstatement hfirst, ih hothers⟩

lemma plain_statement {depth : Nat} {token : Token}
    (hreads : (statement scope depth).Reads token tokens stmt rest) : stmt.Plain := by
  induction depth generalizing token tokens stmt rest with
  | zero => exact absurd hreads reads_statement_zero
  | succ depth ih =>
    obtain ⟨-, rfl, -⟩ | ⟨body, -, hbody, rfl⟩ | ⟨atEnd, -, hchoice⟩ | ⟨middle, -, hemission, -⟩ :=
      reads_statement_succ.mp hreads
    · exact .empty
    · exact .block (plain_statements (fun _ _ _ _ h => ih h) hbody)
    · simp only [reads_choice, reads_ofHead] at hchoice
      obtain ⟨_, condition, _, yes, _, -, hcondition, ⟨_, _, -, hyes⟩, helse⟩ := hchoice
      have hcondition := readsPlain_expression scope depth hcondition
      obtain ⟨_, no, -, ⟨_, _, -, hno⟩, rfl⟩ | ⟨-, -, rfl⟩ := helse
      · refine .branch hcondition (ih hyes) ?_
        rintro _ ⟨⟩
        exact ih hno
      · refine .branch hcondition (ih hyes) ?_
        rintro _ ⟨⟩
    · exact plain_emission hemission

/-! ### Functions -/

lemma plain_block {body : List Stmt} (hreads : (block scope).Reads tokens body rest) :
    ∀ stmt ∈ body, stmt.Plain := by
  obtain ⟨_, -, hstatements⟩ := reads_block.mp hreads
  exact plain_statements (fun _ _ _ _ h => plain_statement h) hstatements

lemma plain_function {size : Nat} {parameter : String} {body : List Stmt}
    (hreads : (function size).Reads tokens (parameter, body) rest) : ∀ stmt ∈ body, stmt.Plain := by
  obtain ⟨_, _, _, -, -, -, hblock⟩ | ⟨-, _, -, harrow⟩ := reads_function.mp hreads
  · exact plain_block hblock
  obtain ⟨_, stmt, -, hemission, rfl⟩ | hblock := reads_arrowBody.mp harrow
  · rw [List.forall_mem_singleton]
    exact plain_emission hemission
  · exact plain_block hblock

/-- The statements of a compiled function are plain. -/
lemma plain_of_compile {source : String} {function : MapFunction}
    (h : compile source = .ok function) : ∀ stmt ∈ function.body, stmt.Plain := by
  unfold compile at h
  split at h
  · cases h
  rename_i tokens _
  split at h
  · cases h
  rename_i parameter body hprogram
  cases h
  obtain ⟨rest, hwrapped, -⟩ := program_eq_ok_iff.mp hprogram
  obtain ⟨-, hfunction⟩ | ⟨-, _, -, hfunction⟩ := reads_wrappedFunction.mp hwrapped
  · exact plain_function hfunction
  · exact plain_function hfunction

end DocumentDb.MapFunction
