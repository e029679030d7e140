import DocumentDb.Proofs.MapFunction.Chains

/-!
# The height of compiled functions

Evaluation descends a tree, so the height of the tree is the depth of its recursion. The levels of
nesting that a source may use bound how often expressions and statements stand in one another. They
do not bound the length of a run, as binary operators and members grow the tree to the left one by
one. So the height is bounded in terms of the longest run, and without a bound on the runs it is
not bounded at all.
-/

namespace DocumentDb.MapFunction

open MapFunction.Parser

variable {tokens rest : List Token}

/-! ### Heights and runs -/

mutual

/-- The height of the tree of an expression. -/
def Expr.height : Expr → Nat
  | .literal _ | .undefined | .parameter => 1
  | .array items => itemsHeight items + 1
  | .object fields => fieldsHeight fields + 1
  | .not operand => operand.height + 1
  | .member left right | .and left right | .or left right | .compare _ left right =>
    max left.height right.height + 1

/-- The height of the highest item. -/
def itemsHeight : List Expr → Nat
  | [] => 0
  | item :: items => max item.height (itemsHeight items)

/-- The height of the highest field. -/
def fieldsHeight : List (String × Expr) → Nat
  | [] => 0
  | (_, value) :: fields => max value.height (fieldsHeight fields)

end

/-- The length of the run of left operands and of bases of members that starts at an expression. -/
def Expr.run : Expr → Nat
  | .member left _ | .and left _ | .or left _ | .compare _ left _ => left.run + 1
  | _ => 0

mutual

/-- The length of the longest run in an expression. -/
def Expr.longestRun : Expr → Nat
  | .literal _ | .undefined | .parameter => 0
  | .array items => itemsLongestRun items
  | .object fields => fieldsLongestRun fields
  | .not operand => operand.longestRun
  | .member left right | .and left right | .or left right | .compare _ left right =>
    max (left.run + 1) (max left.longestRun right.longestRun)

/-- The length of the longest run in the items. -/
def itemsLongestRun : List Expr → Nat
  | [] => 0
  | item :: items => max item.longestRun (itemsLongestRun items)

/-- The length of the longest run in the fields. -/
def fieldsLongestRun : List (String × Expr) → Nat
  | [] => 0
  | (_, value) :: fields => max value.longestRun (fieldsLongestRun fields)

end

mutual

/-- The height of the tree of a statement. -/
def Stmt.height : Stmt → Nat
  | .emit key value => max (key.elim 0 Expr.height) (value.elim 0 Expr.height) + 1
  | .branch condition yes no => max condition.height (max yes.height (elseHeight no)) + 1
  | .block body => bodyHeight body + 1
  | .empty => 1

/-- The height of a statement that may be left out. -/
def elseHeight : Option Stmt → Nat
  | some stmt => stmt.height
  | none => 0

/-- The height of the highest statement. -/
def bodyHeight : List Stmt → Nat
  | [] => 0
  | stmt :: body => max stmt.height (bodyHeight body)

end

mutual

/-- The length of the longest run in a statement. -/
def Stmt.longestRun : Stmt → Nat
  | .emit key value => max (key.elim 0 Expr.longestRun) (value.elim 0 Expr.longestRun)
  | .branch condition yes no => max condition.longestRun (max yes.longestRun (elseLongestRun no))
  | .block body => bodyLongestRun body
  | .empty => 0

/-- The length of the longest run in a statement that may be left out. -/
def elseLongestRun : Option Stmt → Nat
  | some stmt => stmt.longestRun
  | none => 0

/-- The length of the longest run in the statements. -/
def bodyLongestRun : List Stmt → Nat
  | [] => 0
  | stmt :: body => max stmt.longestRun (bodyLongestRun body)

end

/-! ### A run is no longer than the tree is high -/

lemma Expr.run_lt_height (e : Expr) : e.run < e.height := by
  match e with
  | .literal _ | .undefined | .parameter | .array _ | .object _ | .not _ =>
    exact Nat.succ_pos _
  | .member left right | .and left right | .or left right | .compare _ left right =>
    have := left.run_lt_height
    simp only [run, height]
    omega

mutual

lemma Expr.longestRun_lt_height (e : Expr) : e.longestRun < e.height := by
  match e with
  | .literal _ | .undefined | .parameter => exact Nat.one_pos
  | .array items => exact Nat.lt_succ_of_le (itemsLongestRun_le_height items)
  | .object fields => exact Nat.lt_succ_of_le (fieldsLongestRun_le_height fields)
  | .not operand => exact Nat.lt_succ_of_lt operand.longestRun_lt_height
  | .member left right | .and left right | .or left right | .compare _ left right =>
    have := left.run_lt_height
    have := left.longestRun_lt_height
    have := right.longestRun_lt_height
    simp only [Expr.longestRun, Expr.height]
    omega

lemma itemsLongestRun_le_height (items : List Expr) :
    itemsLongestRun items ≤ itemsHeight items := by
  match items with
  | [] => exact Nat.le_refl 0
  | item :: items =>
    have := item.longestRun_lt_height
    have := itemsLongestRun_le_height items
    simp only [itemsLongestRun, itemsHeight]
    omega

lemma fieldsLongestRun_le_height (fields : List (String × Expr)) :
    fieldsLongestRun fields ≤ fieldsHeight fields := by
  match fields with
  | [] => exact Nat.le_refl 0
  | (_, value) :: fields =>
    have := value.longestRun_lt_height
    have := fieldsLongestRun_le_height fields
    simp only [fieldsLongestRun, fieldsHeight]
    omega

end

mutual

lemma Stmt.longestRun_lt_height (stmt : Stmt) : stmt.longestRun < stmt.height := by
  match stmt with
  | .emit key value =>
    have h (e : Option Expr) : e.elim 0 Expr.longestRun ≤ e.elim 0 Expr.height := by
      cases e with
      | none => exact Nat.le_refl 0
      | some e => exact Nat.le_of_lt e.longestRun_lt_height
    have := h key
    have := h value
    simp only [Stmt.longestRun, Stmt.height]
    omega
  | .branch condition yes no =>
    have := condition.longestRun_lt_height
    have := yes.longestRun_lt_height
    have := elseLongestRun_le_height no
    simp only [Stmt.longestRun, Stmt.height]
    omega
  | .block body => exact Nat.lt_succ_of_le (bodyLongestRun_le_height body)
  | .empty => exact Nat.one_pos

lemma elseLongestRun_le_height (no : Option Stmt) : elseLongestRun no ≤ elseHeight no := by
  match no with
  | some stmt => exact Nat.le_of_lt stmt.longestRun_lt_height
  | none => exact Nat.le_refl 0

lemma bodyLongestRun_le_height (body : List Stmt) : bodyLongestRun body ≤ bodyHeight body := by
  match body with
  | [] => exact Nat.le_refl 0
  | stmt :: body =>
    have := stmt.longestRun_lt_height
    have := bodyLongestRun_le_height body
    simp only [bodyLongestRun, bodyHeight]
    omega

end

/-! ### What the parsers build -/

/-- A tree that grows another one to the left. -/
structure Grows (whole left right : Expr) : Prop where
  height : whole.height = max left.height right.height + 1
  run : whole.run = left.run + 1
  longestRun : whole.longestRun = max (left.run + 1) (max left.longestRun right.longestRun)

/-- How a tree stands to the one it was grown from in steps that add what is at most `bound` high:
each step makes it at most one higher and its run one longer. -/
structure Grown (bound : Nat) (first last : Expr) : Prop where
  height : last.height + first.run ≤ max first.height bound + last.run
  longestRun : first.longestRun ≤ last.longestRun

lemma Grown.refl (bound : Nat) (e : Expr) : Grown bound e e where
  height := Nat.add_le_add_right (Nat.le_max_left _ _) _
  longestRun := Nat.le_refl _

lemma Grown.step {bound : Nat} {whole left right last : Expr} (hgrows : Grows whole left right)
    (hgrown : Grown bound whole last) (hright : right.height ≤ bound) : Grown bound left last where
  height := by
    have := hgrown.height
    rw [hgrows.height, hgrows.run] at this
    omega
  longestRun := by
    have := hgrown.longestRun
    rw [hgrows.longestRun] at this
    omega

lemma Expr.run_le_longestRun (e : Expr) : e.run ≤ e.longestRun := by
  cases e with
  | literal | undefined | parameter | array | object | not => exact Nat.zero_le _
  | member | and | or | compare => exact Nat.le_max_left _ _

variable {n h k : Nat}

/-- The expressions that are read and have no run longer than `n` are at most `h` high. -/
def HeightWithin (n h : Nat) (parser : Parser Expr) : Prop :=
  ∀ ⦃tokens value rest⦄, parser.Reads tokens value rest → value.longestRun ≤ n → value.height ≤ h

lemma heightWithin_fail {error : GrammarError} : HeightWithin n h (fail error) := by
  intro tokens value rest hreads
  exact absurd hreads reads_fail

section Chain

variable {operator? : Punct → Option (Expr → Expr → Expr)} {operand : Parser Expr}

/-- All of the operators grow the tree of their left operand. -/
def Growing (operator? : Punct → Option (Expr → Expr → Expr)) : Prop :=
  ∀ ⦃p operator⦄, operator? p = some operator →
    ∀ left right, Grows (operator left right) left right

lemma grown_chainFrom (hgrows : Growing operator?)
    (hoperand : HeightWithin n h operand) {left value : Expr}
    (hreads : (chainFrom operator? operand left).Reads tokens value rest)
    (hvalue : value.longestRun ≤ n) : Grown h left value := by
  induction hlength : tokens.length using Nat.strongRecOn generalizing tokens left with
  | _ m ih =>
    obtain ⟨rfl, -, -⟩ | ⟨p, operator, behind, right, middle, rfl, hoperator, hright, hmore⟩ :=
      reads_chainFrom.mp hreads
    · exact Grown.refl h value
    · have hlt : middle.length < m := by
        have := hright.fst
        rw [← hlength, List.length_cons]
        omega
      have hwhole := hgrows hoperator left right
      have hgrown := ih middle.length hlt hmore rfl
      refine hgrown.step hwhole (hoperand hright ?_)
      have := hgrown.longestRun
      rw [hwhole.longestRun] at this
      omega

/-- The operators of one precedence add no more than the length of the longest run. -/
lemma HeightWithin.chain (hoperand : HeightWithin n h operand) (hgrows : Growing operator?) :
    HeightWithin n (h + n) (chain operator? operand) := by
  intro tokens value rest hreads hvalue
  obtain ⟨first, middle, hfirst, hmore⟩ := reads_andThen.mp hreads
  have hgrown := grown_chainFrom hgrows hoperand hmore hvalue
  have := hoperand hfirst (Nat.le_trans hgrown.longestRun hvalue)
  have := value.run_le_longestRun
  have := hgrown.height
  omega

end Chain

lemma HeightWithin.expressionOver {operand : Parser Expr} (hoperand : HeightWithin n h operand) :
    HeightWithin n (h + 4 * n) (expressionOver operand) := by
  have hrelational : Growing relational? := by
    rintro (_ | _) _ ⟨⟩ left right <;> exact ⟨rfl, rfl, rfl⟩
  have hequality : Growing equality? := by
    rintro (_ | _) _ ⟨⟩ left right <;> exact ⟨rfl, rfl, rfl⟩
  have hconjunction : Growing conjunction? := by
    rintro (_ | _) _ ⟨⟩ left right
    exact ⟨rfl, rfl, rfl⟩
  have hdisjunction : Growing disjunction? := by
    rintro (_ | _) _ ⟨⟩ left right
    exact ⟨rfl, rfl, rfl⟩
  have hwithin := (((hoperand.chain hrelational).chain hequality).chain hconjunction).chain
    hdisjunction
  intro tokens value rest hreads hvalue
  have := hwithin hreads hvalue
  omega

/-! ### Elements, members and operands -/

lemma grown_membersFrom {scope : Scope} {inner : Parser Expr} (hinner : HeightWithin n h inner)
    {base value : Expr} (hreads : (membersFrom scope inner base).Reads tokens value rest)
    (hvalue : value.longestRun ≤ n) : Grown (h + 1) base value := by
  have hmember (base key : Expr) : Grows (.member base key) base key := ⟨rfl, rfl, rfl⟩
  induction hlength : tokens.length using Nat.strongRecOn generalizing tokens base with
  | _ m ih =>
    obtain ⟨rfl, -⟩ | ⟨behind, name, middle, rfl, hname, hmore⟩ |
      ⟨behind, key, middle, rfl, hkey, hmore⟩ := reads_membersFrom.mp hreads
    · exact Grown.refl _ value
    · have hlt : middle.length < m := by
        have := hname.fst
        rw [← hlength, List.length_cons]
        omega
      exact (ih middle.length hlt hmore rfl).step (hmember _ _) (Nat.le_add_left 1 h)
    · have hlt : middle.length < m := by
        have := hkey.fst
        rw [← hlength, List.length_cons]
        omega
      have hgrown := ih middle.length hlt hmore rfl
      refine hgrown.step (hmember base key) (Nat.le_succ_of_le ?_)
      refine hinner (reads_memberKey.mp hkey) ?_
      have := hgrown.longestRun
      rw [(hmember base key).longestRun] at this
      omega

lemma itemsHeight_le {items : List Expr}
    (hitems : ∀ item ∈ items, item.longestRun ≤ n → item.height ≤ h)
    (hrun : itemsLongestRun items ≤ n) : itemsHeight items ≤ h := by
  induction items with
  | nil => exact Nat.zero_le h
  | cons item items ih =>
    rw [List.forall_mem_cons] at hitems
    rw [itemsLongestRun, Nat.max_le] at hrun
    exact Nat.max_le.mpr ⟨hitems.1 hrun.1, ih hitems.2 hrun.2⟩

lemma fieldsHeight_le {fields : List (String × Expr)}
    (hfields : ∀ field ∈ fields, field.2.longestRun ≤ n → field.2.height ≤ h)
    (hrun : fieldsLongestRun fields ≤ n) : fieldsHeight fields ≤ h := by
  induction fields with
  | nil => exact Nat.zero_le h
  | cons field fields ih =>
    rw [List.forall_mem_cons] at hfields
    rw [fieldsLongestRun, Nat.max_le] at hrun
    exact Nat.max_le.mpr ⟨hfields.1 hrun.1, ih hfields.2 hrun.2⟩

lemma wordExpr_height {scope : Scope} {name : String} {value : Expr}
    (hvalue : wordExpr scope name = .ok value) : value.height = 1 := by
  unfold wordExpr at hvalue
  split at hvalue
  case h_5 =>
    split at hvalue
    · cases hvalue
      rfl
    · cases hvalue
  all_goals
    cases hvalue
    rfl

/-- A primary expression is at most one higher than those in it. -/
lemma HeightWithin.primary {scope : Scope} {inner : Parser Expr} (hinner : HeightWithin n h inner) :
    HeightWithin n (h + 1) (ofHead (primary scope inner) .endOfInput) := by
  intro tokens value rest hreads hvalue
  obtain ⟨token, behind, -, hprimary⟩ := reads_ofHead.mp hreads
  obtain ⟨_, -, rfl, -⟩ | ⟨_, -, rfl, -⟩ | ⟨name, -, hname, -⟩ | ⟨-, hinside⟩ | ⟨-, hinside⟩ |
    ⟨-, hinside⟩ := reads_primary.mp hprimary
  · exact Nat.le_add_left 1 h
  · exact Nat.le_add_left 1 h
  · rw [wordExpr_height hname]
    exact Nat.le_add_left 1 h
  · simp only [parenthesized, reads_bind, reads_pure] at hinside
    obtain ⟨e, _, he, -, _, -, rfl, -⟩ := hinside
    exact Nat.le_succ_of_le (hinner he hvalue)
  · simp only [arrayItems, reads_bind, reads_pure] at hinside
    obtain ⟨items, _, hitems, -, _, -, rfl, -⟩ := hinside
    exact Nat.succ_le_succ (itemsHeight_le (forall_elements hinner hitems) hvalue)
  · simp only [objectFields, reads_bind, reads_pure] at hinside
    obtain ⟨fields, _, hfields, -, _, -, rfl, -⟩ := hinside
    refine Nat.succ_le_succ (fieldsHeight_le (forall_elements ?_ hfields) hvalue)
    intro tokens value rest hfield
    simp only [field, reads_bind, reads_pure] at hfield
    obtain ⟨_, _, -, -, _, -, e, _, he, rfl, -⟩ := hfield
    exact hinner he

lemma HeightWithin.operand {scope : Scope} {negated inner : Parser Expr}
    (hnegated : HeightWithin n k negated) (hinner : HeightWithin n h inner) :
    HeightWithin n (max (k + 1) (h + 1 + n)) (operand scope negated inner) := by
  intro tokens value rest hreads hvalue
  obtain ⟨_, e, -, he, rfl⟩ | ⟨-, base, middle, hbase, hmore⟩ := reads_operand.mp hreads
  · exact Nat.le_trans (Nat.succ_le_succ (hnegated he hvalue)) (Nat.le_max_left _ _)
  · have hgrown := grown_membersFrom hinner hmore hvalue
    have := hinner.primary hbase (Nat.le_trans hgrown.longestRun hvalue)
    have := value.run_le_longestRun
    have := hgrown.height
    omega

/-! ### Expressions and statements -/

lemma heightWithin_operandAt (scope : Scope) (depth : Nat) :
    HeightWithin n ((5 * n + 1) * depth + n + 1) (operandAt scope depth) := by
  induction depth with
  | zero =>
    intro tokens value rest hreads hvalue
    have hfail : HeightWithin n 0 (fail .tooDeep) := heightWithin_fail
    have := hfail.operand hfail hreads hvalue
    omega
  | succ depth ih =>
    intro tokens value rest hreads hvalue
    have := ih.operand ih.expressionOver hreads hvalue
    rw [Nat.mul_succ]
    omega

/-- The operators of four precedences and the members each add a run, and a level one more. -/
lemma heightWithin_expression (scope : Scope) (depth : Nat) :
    HeightWithin n ((5 * n + 1) * depth) (expression scope depth) := by
  cases depth with
  | zero => exact heightWithin_fail
  | succ depth =>
    intro tokens value rest hreads hvalue
    have := (heightWithin_operandAt scope depth).expressionOver hreads hvalue
    rw [Nat.mul_succ]
    omega

lemma emission_height {scope : Scope} {depth : Nat} {stmt : Stmt}
    (hreads : (emission scope depth).Reads tokens stmt rest) (hstmt : stmt.longestRun ≤ n) :
    stmt.height ≤ (5 * n + 1) * depth + 1 := by
  obtain ⟨_, arguments, -, harguments, -, rfl⟩ := reads_emission.mp hreads
  have hall : ∀ e ∈ arguments, e.longestRun ≤ n → e.height ≤ (5 * n + 1) * depth :=
    forall_elements (heightWithin_expression scope depth) harguments
  have hargument (position : Nat)
      (hrun : arguments[position]?.elim 0 Expr.longestRun ≤ n) :
      arguments[position]?.elim 0 Expr.height ≤ (5 * n + 1) * depth := by
    cases hposition : arguments[position]? with
    | none => exact Nat.zero_le _
    | some e =>
      rw [hposition] at hrun
      exact hall e (List.mem_of_getElem? hposition) hrun
  rw [Stmt.longestRun, Nat.max_le] at hstmt
  exact Nat.succ_le_succ (Nat.max_le.mpr ⟨hargument 0 hstmt.1, hargument 1 hstmt.2⟩)

lemma body_height {statement : HeadParser Stmt}
    (hstatement : ∀ ⦃token behind stmt rest⦄, statement.Reads token behind stmt rest →
      stmt.longestRun ≤ n → stmt.height ≤ h)
    {size : Nat} {body : List Stmt} (hreads : (statements size statement).Reads tokens body rest)
    (hbody : bodyLongestRun body ≤ n) : bodyHeight body ≤ h := by
  induction body generalizing tokens with
  | nil => exact Nat.zero_le h
  | cons stmt body ih =>
    rw [bodyLongestRun, Nat.max_le] at hbody
    obtain ⟨h, -⟩ | ⟨token, behind, first, middle, others, -, -, hfirst, hothers, h⟩ :=
      reads_statements.mp hreads
    · cases h
    · cases h
      exact Nat.max_le.mpr ⟨hstatement hfirst hbody.1, ih hothers hbody.2⟩

lemma statement_height {scope : Scope} {depth : Nat} {token : Token} {stmt : Stmt}
    (hreads : (statement scope depth).Reads token tokens stmt rest)
    (hstmt : stmt.longestRun ≤ n) : stmt.height ≤ (5 * n + 1) * depth := by
  induction depth generalizing token tokens stmt rest with
  | zero => exact absurd hreads reads_statement_zero
  | succ depth ih =>
    have hstep : (5 * n + 1) * depth + 1 ≤ (5 * n + 1) * (depth + 1) := by
      rw [Nat.mul_succ]
      omega
    refine Nat.le_trans ?_ hstep
    obtain ⟨-, rfl, -⟩ | ⟨body, -, hbody, rfl⟩ | ⟨atEnd, -, hchoice⟩ | ⟨middle, -, hemission, -⟩ :=
      reads_statement_succ.mp hreads
    · exact Nat.le_add_left 1 _
    · exact Nat.succ_le_succ (body_height (fun _ _ _ _ h => ih h) hbody hstmt)
    · simp only [reads_choice, reads_ofHead] at hchoice
      obtain ⟨_, condition, _, yes, _, -, hcondition, ⟨_, _, -, hyes⟩, helse⟩ := hchoice
      obtain ⟨_, no, -, ⟨_, _, -, hno⟩, rfl⟩ | ⟨-, -, rfl⟩ := helse
      all_goals
        simp only [Stmt.longestRun, elseLongestRun, Nat.max_le] at hstmt
        refine Nat.succ_le_succ (Nat.max_le.mpr
          ⟨heightWithin_expression scope depth hcondition hstmt.1,
            Nat.max_le.mpr ⟨ih hyes hstmt.2.1, ?_⟩⟩)
      · exact ih hno hstmt.2.2
      · exact Nat.zero_le _
    · exact emission_height hemission hstmt

/-! ### Compiled functions -/

lemma le_height_members (n : Nat) (base : Expr) : n ≤ (members n base).height := by
  have h : base.height + n ≤ (members n base).height := by
    induction n generalizing base with
    | zero => exact Nat.le_refl _
    | succ n ih =>
      refine Nat.le_trans ?_ (ih _)
      simp only [Expr.height]
      omega
  omega

lemma block_height {scope : Scope} {body : List Stmt}
    (hreads : (block scope).Reads tokens body rest) (hbody : bodyLongestRun body ≤ n) :
    bodyHeight body ≤ (5 * n + 1) * maxDepth := by
  obtain ⟨_, -, hstatements⟩ := reads_block.mp hreads
  exact body_height (fun _ _ _ _ h => statement_height h) hstatements hbody

lemma function_height {size : Nat} {parameter : String} {body : List Stmt}
    (hreads : (function size).Reads tokens (parameter, body) rest)
    (hbody : bodyLongestRun body ≤ n) : bodyHeight body ≤ (5 * n + 1) * maxDepth + 1 := by
  obtain ⟨_, _, _, -, -, -, hblock⟩ | ⟨-, _, -, harrow⟩ := reads_function.mp hreads
  · exact Nat.le_succ_of_le (block_height hblock hbody)
  obtain ⟨_, stmt, -, hemission, rfl⟩ | hblock := reads_arrowBody.mp harrow
  · simp only [bodyLongestRun, Nat.max_zero] at hbody
    simp only [bodyHeight, Nat.max_zero]
    exact emission_height hemission hbody
  · exact Nat.le_succ_of_le (block_height hblock hbody)

/-- A compiled function is at least as high as its longest run is long. It is not much higher: the
levels of nesting bound its height for any bound on the runs. -/
theorem compile_height {source : String} {function : MapFunction}
    (hcompile : compile source = .ok function) :
    bodyLongestRun function.body ≤ bodyHeight function.body ∧
      bodyHeight function.body ≤ (5 * bodyLongestRun function.body + 1) * maxDepth + 1 := by
  refine ⟨bodyLongestRun_le_height function.body, ?_⟩
  unfold compile at hcompile
  split at hcompile
  · cases hcompile
  rename_i tokens _
  split at hcompile
  · cases hcompile
  rename_i parameter body hprogram
  cases hcompile
  obtain ⟨rest, hwrapped, -⟩ := program_eq_ok_iff.mp hprogram
  obtain ⟨-, hfunction⟩ | ⟨-, _, -, hfunction⟩ := reads_wrappedFunction.mp hwrapped
  · exact function_height hfunction (Nat.le_refl _)
  · exact function_height hfunction (Nat.le_refl _)

/-- A comparison of a member with an array: two members and the comparison make a run of three, and
what is in the brackets comes on top. -/
theorem compile_height_comparison :
    ∃ function, compile "doc => emit(doc.a.b < [!doc.c], 1)" = .ok function ∧
      bodyLongestRun function.body = 3 ∧ bodyHeight function.body = 6 ∧
      bodyLongestRun function.body ≤ bodyHeight function.body ∧
        bodyHeight function.body ≤ (5 * bodyLongestRun function.body + 1) * maxDepth + 1 := by
  have hsizes : (compile "doc => emit(doc.a.b < [!doc.c], 1)").toOption.any (fun function =>
      bodyLongestRun function.body == 3 && bodyHeight function.body == 6) = true := by
    decide +kernel
  cases hcompile : compile "doc => emit(doc.a.b < [!doc.c], 1)" with
  | error error =>
    rw [hcompile] at hsizes
    cases hsizes
  | ok function =>
    simp only [hcompile, Except.toOption, Option.any_some, Bool.and_eq_true, beq_iff_eq] at hsizes
    exact ⟨function, rfl, hsizes.1, hsizes.2, compile_height hcompile⟩

/-- The levels of nesting alone bound the height of no statement: members in a chain are not
counted. -/
theorem not_compile_height_bounded :
    ¬ ∃ bound, ∀ source function, compile source = .ok function →
      ∀ stmt ∈ function.body, stmt.height ≤ bound := by
  rintro ⟨bound, hbound⟩
  have hchain := hbound _ _ (compile_chainSource bound) _ List.mem_cons_self
  have := le_height_members bound .parameter
  simp only [Stmt.height, Option.elim] at hchain
  omega

end DocumentDb.MapFunction
