import DocumentDb.Proofs.MapFunction.Recognition

/-!
# The sources that are accepted

A source is accepted exactly when its tokens are a sentence of the grammar, in which an `else` goes
with the nearest `if` that has none. That rule matters: an `else` that may go with any `if` can
leave the statement behind it more levels of nesting.

A statement is not always read to its end and no further: an emission takes a semicolon that
follows, though the grammar may have that semicolon as a statement of its own.
-/

namespace DocumentDb.MapFunction

open scoped Computability
open Grammar MapFunction.Parser

variable {scope : Scope} {depth : Nat} {tokens rest : List Token}

/-! ### Statements begin and end -/

/-- A token with which a statement begins, and a semicolon is a whole statement. -/
def BeginsStatement (sentence : List Token) : Prop :=
  ∃ token behind, sentence = token :: behind ∧ token ≠ .punct .closeBrace ∧
    token ≠ .word "else" ∧ (token = .punct .semicolon → behind = [])

lemma beginsStatement {parameter : String} {closed : Bool} {sentence : List Token}
    (h : sentence ∈ Grammar.statement parameter depth closed) : BeginsStatement sentence := by
  cases depth with
  | zero => cases h
  | succ depth =>
    have hif {l : Language Token} (h : sentence ∈ condition parameter depth * l) :
        BeginsStatement sentence := by
      obtain ⟨_, ⟨_, rfl, others, -, rfl⟩, more, -, rfl⟩ := h
      exact ⟨.word "if", others ++ more, rfl, by decide, by decide, nofun⟩
    obtain ((((rfl | hblock) | hemission) | hchoice) | hchoice) := h
    · exact ⟨_, _, rfl, by decide, by decide, fun _ => rfl⟩
    · obtain ⟨body, -, rfl⟩ := mem_enclosed.mp hblock
      exact ⟨_, _, rfl, by decide, by decide, nofun⟩
    · obtain ⟨_, ⟨_, rfl, others, -, rfl⟩, more, -, rfl⟩ := hemission
      exact ⟨.word "emit", others ++ more, rfl, by decide, by decide, nofun⟩
    · exact hif hchoice
    · cases closed with
      | false => exact hif hchoice
      | true => cases hchoice

/-- Neither the tokens nor those behind a semicolon begin with `else`. -/
def NoElse (tokens : List Token) : Prop :=
  tokens.head? ≠ some (.word "else") ∧
    ∀ behind, tokens = .punct .semicolon :: behind → behind.head? ≠ some (.word "else")

/-! ### Arguments -/

lemma recognizes_emission (scope : Scope) (depth : Nat) :
    Recognizes (MapFunction.emission scope depth) (arguments scope.parameter depth)
      fun _ => True := by
  have h := recognizes_expression scope depth
  constructor
  case sound =>
    intro tokens stmt rest hreads
    obtain ⟨behind, values, rfl, hvalues, hlength, -⟩ := reads_emission.mp hreads
    obtain ⟨sentence, hsentence, rfl⟩ := h.sound_elements hvalues
    refine ⟨_, mem_enclosed.mpr ⟨sentence, ?_, rfl⟩, by simp⟩
    match values, hlength with
    | [], _ => exact .inl (.inl hsentence)
    | [_], _ => exact .inl (.inr hsentence)
    | [_, _], _ => exact .inr hsentence
  case complete =>
    intro tokens rest htokens hrest
    obtain ⟨sentence, hsentence, rfl⟩ := mem_enclosed.mp htokens
    obtain ⟨n, hn, hsentence⟩ : ∃ n ≤ 2,
        sentence ∈ separated (Grammar.expression scope.parameter depth) n := by
      obtain (h | h) | h := hsentence
      · exact ⟨0, by decide, h⟩
      · exact ⟨1, by decide, h⟩
      · exact ⟨2, by decide, h⟩
    obtain ⟨values, rfl, hvalues⟩ := h.complete_elements
      ((avoids_expression _ _).mono (by decide)) (clear_closers .closeParen (by decide))
      (clear_closers .comma (by decide)) (by decide) hsentence rest
    refine ⟨_, reads_emission.mpr ⟨_, values, ?_, hvalues, hn, rfl⟩⟩
    simp

/-! ### What is read are statements -/

lemma sound_statements {statement : HeadParser Stmt} {l : Language Token}
    (h : ∀ {token behind stmt rest}, statement.Reads token behind stmt rest →
      ∃ sentence ∈ l, token :: behind = sentence ++ rest)
    {size : Nat} {body : List Stmt} (hreads : (statements size statement).Reads tokens body rest) :
    ∃ sentence ∈ l∗, tokens = sentence ++ .punct .closeBrace :: rest := by
  induction hlength : tokens.length using Nat.strong_induction_on generalizing tokens body with
  | _ n ih =>
    obtain ⟨-, rfl⟩ | ⟨token, behind, first, middle, others, rfl, -, hfirst, hothers, -⟩ :=
      reads_statements.mp hreads
    · exact ⟨[], Language.nil_mem_kstar _, rfl⟩
    · obtain ⟨sentence, hsentence, hbehind⟩ := h hfirst
      have hlt : middle.length < n := by
        have := hfirst.fst
        rw [← hlength, List.length_cons]
        omega
      obtain ⟨more, hmore, rfl⟩ := ih middle.length hlt hothers rfl
      exact ⟨_, append_mem_kstar hsentence hmore, by rw [hbehind, List.append_assoc]⟩

lemma sound_condition {condition : Expr}
    (hreads : (expression scope depth).Reads tokens condition (.punct .closeParen :: rest)) :
    ∃ sentence ∈ Grammar.condition scope.parameter depth,
      .word "if" :: .punct .openParen :: tokens = sentence ++ rest := by
  obtain ⟨sentence, hsentence, rfl⟩ := (recognizes_expression scope depth).sound hreads
  exact ⟨_, mem_word_mul.mpr ⟨_, mem_enclosed.mpr ⟨_, hsentence, rfl⟩, rfl⟩, by simp⟩

/-- What is read of a choice is a sentence, if what is read of the statements in it is. -/
lemma sound_choice {atEnd : GrammarError}
    (h : ∀ (closed : Bool) {token behind stmt rest},
      (statement scope depth).Reads token behind stmt rest →
        (closed = true → rest.head? = some (.word "else")) →
          ∃ sentence ∈ Grammar.statement scope.parameter depth closed,
            token :: behind = sentence ++ rest)
    (closed : Bool) {stmt : Stmt}
    (hreads : (choice scope depth (ofHead (statement scope depth) atEnd)).Reads tokens stmt rest)
    (hclosed : closed = true → rest.head? = some (.word "else")) :
    ∃ sentence ∈ Grammar.statement scope.parameter (depth + 1) closed,
      .word "if" :: tokens = sentence ++ rest := by
  simp only [reads_choice, reads_ofHead] at hreads
  obtain ⟨_, condition, _, yes, after, rfl, hcondition, ⟨token, behind, rfl, hyes⟩, helse⟩ := hreads
  obtain ⟨first, hfirst, hbehind⟩ := sound_condition hcondition
  obtain ⟨_, no, rfl, ⟨token, behind, rfl, hno⟩, -⟩ | ⟨hnone, rfl, -⟩ := helse
  · obtain ⟨second, hsecond, hmiddle⟩ := h true hyes fun _ => rfl
    obtain ⟨third, hthird, hlater⟩ := h closed hno hclosed
    refine ⟨first ++ (second ++ .word "else" :: third), .inl (.inr ?_), ?_⟩
    · exact Language.append_mem_mul hfirst (Language.append_mem_mul hsecond
        (mem_word_mul.mpr ⟨third, hthird, rfl⟩))
    · rw [hbehind, hmiddle, hlater]
      simp
  · obtain rfl : closed = false := Bool.eq_false_iff.mpr fun h => hnone (hclosed h)
    obtain ⟨second, hsecond, hmiddle⟩ := h false hyes (by simp)
    refine ⟨first ++ second, .inr (Language.append_mem_mul hfirst hsecond), ?_⟩
    rw [hbehind, hmiddle, List.append_assoc]

/-- What is read of a statement is a sentence, and a closed one where `else` follows. -/
lemma sound_statement (closed : Bool) {token : Token} {behind : List Token} {stmt : Stmt}
    (hreads : (statement scope depth).Reads token behind stmt rest)
    (hclosed : closed = true → rest.head? = some (.word "else")) :
    ∃ sentence ∈ Grammar.statement scope.parameter depth closed,
      token :: behind = sentence ++ rest := by
  induction depth generalizing closed token behind stmt rest with
  | zero => exact absurd hreads reads_statement_zero
  | succ depth ih =>
    obtain ⟨rfl, -, rfl⟩ | ⟨body, rfl, hbody, -⟩ | ⟨atEnd, rfl, hchoice⟩ |
      ⟨middle, rfl, hemission, hmiddle⟩ := reads_statement_succ.mp hreads
    · exact ⟨_, .inl (.inl (.inl (.inl rfl))), rfl⟩
    · obtain ⟨sentence, hsentence, rfl⟩ := sound_statements (fun h => ih false h (by simp)) hbody
      exact ⟨_, .inl (.inl (.inl (.inr (mem_enclosed.mpr ⟨sentence, hsentence, rfl⟩)))), by simp⟩
    · exact sound_choice (fun closed _ _ _ _ => ih closed) closed hchoice hclosed
    · obtain ⟨sentence, hsentence, rfl⟩ := (recognizes_emission scope depth).sound hemission
      have hmem : .word "emit" :: sentence ∈ Grammar.emission scope.parameter depth :=
        mem_word_mul.mpr ⟨sentence, hsentence, rfl⟩
      obtain rfl | ⟨rfl, -⟩ := hmiddle
      · exact ⟨_, .inl (.inl (.inr (Language.append_mem_mul hmem (.inr rfl)))), by simp⟩
      · exact ⟨_, .inl (.inl (.inr (Language.append_mem_mul hmem (.inl rfl)))), by simp⟩

/-! ### Statements are read -/

/-- A parser reads a sentence that no `else` follows, perhaps with a semicolon behind it. -/
def ReadsSentence (statement : HeadParser Stmt) (sentence rest : List Token) : Prop :=
  ∃ token behind stmt after, sentence ++ rest = token :: behind ∧
    statement.Reads token behind stmt after ∧ (after = rest ∨ rest = .punct .semicolon :: after)

/-- Between the statements of a block no `else` stands. -/
lemma noElse_flatten {parts : List (List Token)} (hparts : ∀ part ∈ parts, BeginsStatement part) :
    NoElse (parts.flatten ++ .punct .closeBrace :: rest) := by
  have hhead {parts : List (List Token)} (hparts : ∀ part ∈ parts, BeginsStatement part) :
      (parts.flatten ++ .punct .closeBrace :: rest).head? ≠ some (.word "else") := by
    match parts with
    | [] => simp
    | part :: _ =>
      obtain ⟨token, behind, rfl, -, helse, -⟩ := hparts part List.mem_cons_self
      simpa using helse
  refine ⟨hhead hparts, fun behind hbehind => ?_⟩
  match parts with
  | [] => cases hbehind
  | part :: parts =>
    rw [List.forall_mem_cons] at hparts
    obtain ⟨⟨token, _, rfl, -, -, hsemicolon⟩, hparts⟩ := hparts
    obtain ⟨rfl, rfl⟩ := List.cons.inj hbehind
    obtain rfl := hsemicolon rfl
    exact hhead hparts

lemma complete_statements {statement : HeadParser Stmt} {size : Nat} {parts : List (List Token)}
    (hparts : ∀ part ∈ parts, BeginsStatement part ∧
      ∀ rest, NoElse rest → ReadsSentence statement part rest) (rest : List Token) :
    ∃ body, (statements size statement).Reads (parts.flatten ++ .punct .closeBrace :: rest) body
      rest := by
  induction hlength : parts.length using Nat.strong_induction_on generalizing parts with
  | _ n ih =>
    match parts with
    | [] => exact ⟨[], reads_statements.mpr (.inl ⟨rfl, rfl⟩)⟩
    | part :: parts =>
      rw [List.forall_mem_cons] at hparts
      obtain ⟨⟨hbegins, hpart⟩, hparts⟩ := hparts
      have hnone : NoElse (parts.flatten ++ .punct .closeBrace :: rest) :=
        noElse_flatten fun part hpart => (hparts part hpart).1
      obtain ⟨token, behind, stmt, after, htokens, hstmt, hafter⟩ := hpart _ hnone
      have hbrace : token ≠ .punct .closeBrace := by
        obtain ⟨_, _, rfl, hbrace, -, -⟩ := hbegins
        rwa [(List.cons.inj htokens).1] at hbrace
      -- The semicolon behind a statement is either left or taken; then it was a statement.
      obtain ⟨others, hothers⟩ : ∃ others, (statements size statement).Reads after others rest := by
        obtain rfl | hafter := hafter
        · exact ih parts.length (by simp [← hlength]) hparts rfl
        match parts, hafter with
        | next :: parts, hafter =>
          rw [List.forall_mem_cons] at hparts
          obtain ⟨⟨⟨token, _, rfl, -, -, hsemicolon⟩, -⟩, hparts⟩ := hparts
          obtain ⟨rfl, rfl⟩ := List.cons.inj hafter
          obtain rfl := hsemicolon rfl
          exact ih parts.length (by simp only [← hlength, List.length_cons]; omega) hparts rfl
      refine ⟨stmt :: others, reads_statements.mpr (.inr ⟨token, behind, stmt, after, others, ?_,
        hbrace, hstmt, hothers, rfl⟩)⟩
      rw [List.flatten_cons, List.append_assoc, htokens]

lemma complete_condition {sentence : List Token}
    (hsentence : sentence ∈ Grammar.condition scope.parameter depth) (rest : List Token) :
    ∃ behind condition, sentence ++ rest = .word "if" :: .punct .openParen :: behind ∧
      (expression scope depth).Reads behind condition (.punct .closeParen :: rest) := by
  obtain ⟨_, hparen, rfl⟩ := mem_word_mul.mp hsentence
  obtain ⟨inner, hinner, rfl⟩ := mem_enclosed.mp hparen
  obtain ⟨condition, hcondition⟩ := (recognizes_expression scope depth).complete hinner
    (clear_closers .closeParen (by decide) rest)
  exact ⟨_, condition, by simp, hcondition⟩

lemma complete_emission {sentence : List Token}
    (hsentence : sentence ∈ Grammar.emission scope.parameter depth * (1 + mark .semicolon))
    (rest : List Token) : ReadsSentence (statement scope (depth + 1)) sentence rest := by
  obtain ⟨_, hemit, tail, htail, rfl⟩ := hsentence
  obtain ⟨arguments, harguments, rfl⟩ := mem_word_mul.mp hemit
  obtain ⟨stmt, hstmt⟩ : ∃ stmt, (emission scope depth).Reads (arguments ++ (tail ++ rest)) stmt
      (tail ++ rest) :=
    (recognizes_emission scope depth).complete harguments trivial
  have hreads {after : List Token} (h : tail ++ rest = .punct .semicolon :: after ∨
      after = tail ++ rest ∧ (tail ++ rest).head? ≠ some (.punct .semicolon)) :
      (statement scope (depth + 1)).Reads (.word "emit") (arguments ++ (tail ++ rest)) stmt after :=
    reads_statement_succ.mpr (.inr (.inr (.inr ⟨_, rfl, hstmt, h⟩)))
  obtain rfl | rfl := htail
  · by_cases hsemicolon : rest.head? = some (.punct .semicolon)
    · obtain ⟨after, rfl⟩ := List.head?_eq_some_iff.mp hsemicolon
      exact ⟨_, _, stmt, after, by simp, hreads (.inl rfl), .inr rfl⟩
    · exact ⟨_, _, stmt, rest, by simp, hreads (.inr ⟨rfl, hsemicolon⟩), .inl rfl⟩
  · exact ⟨_, _, stmt, rest, by simp, hreads (.inl rfl), .inl rfl⟩

lemma complete_choice_else {first yes no : List Token}
    (hfirst : first ∈ Grammar.condition scope.parameter depth)
    (hyes : ReadsSentence (statement scope depth) yes (.word "else" :: (no ++ rest)))
    (hno : ReadsSentence (statement scope depth) no rest) :
    ReadsSentence (statement scope (depth + 1)) (first ++ (yes ++ .word "else" :: no)) rest := by
  obtain ⟨behind, condition, hbehind, hcondition⟩ :=
    complete_condition hfirst (yes ++ .word "else" :: (no ++ rest))
  obtain ⟨_, _, yesStmt, _, htokens, hyesStmt, rfl | hsemicolon⟩ := hyes
  case inr => cases hsemicolon
  obtain ⟨_, _, noStmt, after, hlater, hnoStmt, hafter⟩ := hno
  have hchoice : (choice scope depth (ofHead (statement scope depth) .tooDeep)).Reads
      (.punct .openParen :: behind) (.branch condition yesStmt (some noStmt)) after :=
    reads_choice.mpr ⟨behind, condition, _, yesStmt, _, rfl, hcondition,
      reads_ofHead.mpr ⟨_, _, htokens, hyesStmt⟩,
      .inl ⟨_, noStmt, rfl, reads_ofHead.mpr ⟨_, _, hlater, hnoStmt⟩, rfl⟩⟩
  refine ⟨_, _, _, after, ?_, reads_statement_succ.mpr (.inr (.inr (.inl ⟨_, rfl, hchoice⟩))),
    hafter⟩
  simpa using hbehind

lemma complete_choice {first yes : List Token}
    (hfirst : first ∈ Grammar.condition scope.parameter depth)
    (hyes : ReadsSentence (statement scope depth) yes rest) (hrest : NoElse rest) :
    ReadsSentence (statement scope (depth + 1)) (first ++ yes) rest := by
  obtain ⟨behind, condition, hbehind, hcondition⟩ := complete_condition hfirst (yes ++ rest)
  obtain ⟨_, _, yesStmt, after, htokens, hyesStmt, hafter⟩ := hyes
  have hnone : after.head? ≠ some (.word "else") := by
    obtain rfl | hsemicolon := hafter
    · exact hrest.1
    · exact hrest.2 after hsemicolon
  have hchoice : (choice scope depth (ofHead (statement scope depth) .tooDeep)).Reads
      (.punct .openParen :: behind) (.branch condition yesStmt none) after :=
    reads_choice.mpr ⟨behind, condition, _, yesStmt, _, rfl, hcondition,
      reads_ofHead.mpr ⟨_, _, htokens, hyesStmt⟩, .inr ⟨hnone, rfl, rfl⟩⟩
  refine ⟨_, _, _, after, ?_, reads_statement_succ.mpr (.inr (.inr (.inl ⟨_, rfl, hchoice⟩))),
    hafter⟩
  rw [List.append_assoc, hbehind]

/-- A statement is read where no `else` follows, and a closed one wherever it stands. -/
lemma complete_statement {closed : Bool} {sentence : List Token}
    (hsentence : sentence ∈ Grammar.statement scope.parameter depth closed)
    (hrest : closed = false → NoElse rest) :
    ReadsSentence (statement scope depth) sentence rest := by
  induction depth generalizing closed sentence rest with
  | zero => cases hsentence
  | succ depth ih =>
    obtain ((((rfl | hblock) | hemission) | hchoice) | hchoice) := hsentence
    · exact ⟨_, rest, .empty, rest, rfl, reads_statement_succ.mpr (.inl ⟨rfl, rfl, rfl⟩), .inl rfl⟩
    · obtain ⟨_, ⟨parts, rfl, hparts⟩, rfl⟩ := mem_enclosed.mp hblock
      have hread (part : List Token) (hpart : part ∈ parts) : BeginsStatement part ∧
          ∀ rest, NoElse rest → ReadsSentence (statement scope depth) part rest :=
        ⟨beginsStatement (hparts part hpart), fun _ hnone => ih (hparts part hpart) fun _ => hnone⟩
      obtain ⟨body, hbody⟩ :
          ∃ body, (statements scope.size (statement scope depth)).Reads _ body rest :=
        complete_statements hread rest
      exact ⟨_, _, .block body, rest, by simp,
        reads_statement_succ.mpr (.inr (.inl ⟨body, rfl, hbody, rfl⟩)), .inl rfl⟩
    · exact complete_emission hemission rest
    · obtain ⟨first, hfirst, _, ⟨yes, hyes, _, helse, rfl⟩, rfl⟩ := hchoice
      obtain ⟨no, hno, rfl⟩ := mem_word_mul.mp helse
      exact complete_choice_else hfirst (ih hyes nofun) (ih hno hrest)
    · cases closed with
      | true => cases hchoice
      | false =>
        obtain ⟨first, hfirst, yes, hyes, rfl⟩ := hchoice
        exact complete_choice hfirst (ih hyes hrest) (hrest rfl)

/-! ### Functions -/

/-- The statements of a function body, with the parameter that they may refer to. -/
def bodyStatement (parameter : String) : Language Token :=
  Grammar.statement parameter maxDepth false

lemma recognizes_block (scope : Scope) :
    Recognizes (block scope) (Grammar.block (bodyStatement scope.parameter)) fun _ => True where
  sound hreads := by
    obtain ⟨behind, rfl, hbody⟩ := reads_block.mp hreads
    obtain ⟨sentence, hsentence, rfl⟩ :=
      sound_statements (fun h => sound_statement false h (by simp)) hbody
    exact ⟨_, mem_enclosed.mpr ⟨sentence, hsentence, rfl⟩, by simp⟩
  complete := by
    rintro tokens rest hmem -
    obtain ⟨_, ⟨parts, rfl, hparts⟩, rfl⟩ := mem_enclosed.mp hmem
    obtain ⟨body, hbody⟩ := complete_statements (fun part hpart =>
      ⟨beginsStatement (hparts part hpart), fun _ hnone =>
        complete_statement (hparts part hpart) fun _ => hnone⟩) rest
    exact ⟨body, reads_block.mpr ⟨_, by simp, hbody⟩⟩

lemma recognizes_arrowBody (scope : Scope) :
    Recognizes (arrowBody scope)
      (Grammar.block (bodyStatement scope.parameter) +
        Grammar.emission scope.parameter maxDepth) fun _ => True where
  sound hreads := by
    obtain ⟨behind, stmt, rfl, hstmt, -⟩ | hblock := reads_arrowBody.mp hreads
    · obtain ⟨sentence, hsentence, rfl⟩ := (recognizes_emission scope maxDepth).sound hstmt
      exact ⟨_, .inr (mem_word_mul.mpr ⟨sentence, hsentence, rfl⟩), rfl⟩
    · obtain ⟨sentence, hsentence, rfl⟩ := (recognizes_block scope).sound hblock
      exact ⟨sentence, .inl hsentence, rfl⟩
  complete := by
    rintro tokens rest (hblock | hemission) hrest
    · obtain ⟨body, hbody⟩ := (recognizes_block scope).complete hblock hrest
      exact ⟨body, reads_arrowBody.mpr (.inr hbody)⟩
    · obtain ⟨arguments, harguments, rfl⟩ := mem_word_mul.mp hemission
      obtain ⟨stmt, hstmt⟩ := (recognizes_emission scope maxDepth).complete harguments hrest
      exact ⟨[stmt], reads_arrowBody.mpr (.inl ⟨_, stmt, rfl, hstmt, rfl⟩)⟩

lemma mem_parameterList_mul {parameter : String} {l : Language Token} :
    tokens ∈ Grammar.parameterList parameter * l ↔ ∃ sentence ∈ l,
      tokens = .punct .openParen :: .word parameter :: .punct .closeParen :: sentence := by
  simp only [Grammar.parameterList, Language.mem_mul, mem_enclosed, mem_word]
  constructor
  · rintro ⟨_, ⟨_, rfl, rfl⟩, sentence, hsentence, rfl⟩
    exact ⟨sentence, hsentence, rfl⟩
  · rintro ⟨sentence, hsentence, rfl⟩
    exact ⟨_, ⟨_, rfl, rfl⟩, sentence, hsentence, rfl⟩

lemma mem_arrowParameter_mul {parameter : String} {l : Language Token} :
    tokens ∈ Grammar.arrowParameter parameter * l ↔ ∃ sentence ∈ l,
      tokens = .punct .openParen :: .word parameter :: .punct .closeParen :: sentence ∨
        parameter ≠ "function" ∧ tokens = .word parameter :: sentence := by
  have hword : tokens ∈ (if parameter = "function" then 0 else word parameter) * l ↔
      ∃ sentence ∈ l, parameter ≠ "function" ∧ tokens = .word parameter :: sentence := by
    by_cases h : parameter = "function"
    · simp [h]
    · simp [h]
  rw [Grammar.arrowParameter, add_mul, Language.mem_add, mem_parameterList_mul, hword, ← exists_or]
  simp only [← and_or_left]

lemma recognizes_function (size : Nat) :
    Recognizes (function size) (Grammar.function bodyStatement) fun _ => True where
  sound {tokens value rest} hreads := by
    obtain ⟨parameter, body⟩ := value
    obtain ⟨behind, middle, after, rfl, hname, hparameter, hbody⟩ |
      ⟨hword, behind, hparameter, hbody⟩ := reads_function.mp hreads
    · obtain rfl := reads_parameterList.mp hparameter
      obtain ⟨sentence, hsentence, rfl⟩ := (recognizes_block ⟨parameter, size⟩).sound hbody
      have hlist : _ ∈ Grammar.parameterList parameter * Grammar.block (bodyStatement parameter) :=
        mem_parameterList_mul.mpr ⟨sentence, hsentence, rfl⟩
      obtain ⟨name, rfl⟩ | ⟨rfl, -⟩ := reads_functionName.mp hname
      · have hword : [.word name] ∈ 1 + anyWord := .inr ⟨name, rfl⟩
        have hmem := Language.append_mem_mul hword hlist
        exact ⟨_, ⟨parameter, .inl (mem_word_mul.mpr ⟨_, hmem, rfl⟩)⟩, rfl⟩
      · have hnone : [] ∈ 1 + anyWord := .inl rfl
        have hmem := Language.append_mem_mul hnone hlist
        exact ⟨_, ⟨parameter, .inl (mem_word_mul.mpr ⟨_, hmem, rfl⟩)⟩, rfl⟩
    · obtain ⟨sentence, hsentence, rfl⟩ := (recognizes_arrowBody ⟨parameter, size⟩).sound hbody
      have hmem : .punct .arrow :: sentence ∈ mark .arrow *
          (Grammar.block (bodyStatement parameter) + Grammar.emission parameter maxDepth) :=
        mem_mark_mul.mpr ⟨sentence, hsentence, rfl⟩
      obtain rfl | rfl := reads_arrowParameter.mp hparameter
      · exact ⟨_, ⟨parameter, .inr (mem_arrowParameter_mul.mpr ⟨_, hmem, .inl rfl⟩)⟩, rfl⟩
      · have hne : parameter ≠ "function" := by simpa using hword
        exact ⟨_, ⟨parameter, .inr (mem_arrowParameter_mul.mpr ⟨_, hmem, .inr ⟨hne, rfl⟩⟩)⟩, rfl⟩
  complete := by
    rintro tokens rest ⟨parameter, hfunction | harrow⟩ -
    · obtain ⟨_, ⟨_, hname, _, hlist, rfl⟩, rfl⟩ := mem_word_mul.mp hfunction
      obtain ⟨sentence, hsentence, rfl⟩ := mem_parameterList_mul.mp hlist
      obtain ⟨body, hbody⟩ : ∃ body, (block ⟨parameter, size⟩).Reads (sentence ++ rest) body rest :=
        (recognizes_block ⟨parameter, size⟩).complete hsentence trivial
      refine ⟨(parameter, body), reads_function.mpr (.inl ⟨_, _, _, rfl,
        reads_functionName.mpr ?_, reads_parameterList.mpr rfl, hbody⟩)⟩
      obtain rfl | ⟨name, rfl⟩ := hname
      · exact .inr ⟨rfl, by simp⟩
      · exact .inl ⟨name, rfl⟩
    · obtain ⟨_, hbody, htokens⟩ := mem_arrowParameter_mul.mp harrow
      obtain ⟨sentence, hsentence, rfl⟩ := mem_mark_mul.mp hbody
      obtain ⟨body, hbody⟩ :
          ∃ body, (arrowBody ⟨parameter, size⟩).Reads (sentence ++ rest) body rest :=
        (recognizes_arrowBody ⟨parameter, size⟩).complete hsentence trivial
      obtain rfl | ⟨hne, rfl⟩ := htokens
      · exact ⟨(parameter, body), reads_function.mpr (.inr ⟨by simp, _,
          reads_arrowParameter.mpr (.inl rfl), hbody⟩)⟩
      · exact ⟨(parameter, body), reads_function.mpr (.inr ⟨by simpa using hne, _,
          reads_arrowParameter.mpr (.inr rfl), hbody⟩)⟩

lemma mem_kstar_mark {p : Punct} :
    tokens ∈ (mark p)∗ ↔ ∀ token ∈ tokens, token = .punct p := by
  constructor
  · rintro ⟨parts, rfl, hparts⟩ token htoken
    obtain ⟨part, hpart, htoken⟩ := List.mem_flatten.mp htoken
    obtain rfl := hparts part hpart
    exact List.mem_singleton.mp htoken
  · intro h
    induction tokens with
    | nil => exact Language.nil_mem_kstar _
    | cons token tokens ih =>
      rw [List.forall_mem_cons] at h
      obtain ⟨rfl, h⟩ := h
      exact append_mem_kstar (show [Token.punct p] ∈ mark p from rfl) (ih h)

/-! ### Whole sources -/

lemma not_wrapped {statement : String → Language Token} {sentence : List Token}
    (h : sentence ∈ Grammar.function statement) (rest : List Token) :
    ¬ Wrapped (sentence ++ rest) := by
  rintro ⟨hhead, harrow⟩
  obtain ⟨parameter, hfunction | hfunction⟩ := h
  · obtain ⟨_, -, rfl⟩ := mem_word_mul.mp hfunction
    cases hhead
  · obtain ⟨_, hbody, rfl | ⟨-, rfl⟩⟩ := mem_arrowParameter_mul.mp hfunction
    · obtain ⟨_, -, rfl⟩ := mem_mark_mul.mp hbody
      cases harrow
    · cases hhead

lemma wrapped_cons {statement : String → Language Token} {sentence : List Token}
    (h : sentence ∈ Grammar.function statement) (rest : List Token) :
    Wrapped (.punct .openParen :: (sentence ++ rest)) := by
  refine ⟨rfl, ?_⟩
  obtain ⟨parameter, hfunction | hfunction⟩ := h
  · obtain ⟨_, ⟨_, hname, _, hlist, rfl⟩, rfl⟩ := mem_word_mul.mp hfunction
    obtain ⟨_, -, rfl⟩ := mem_parameterList_mul.mp hlist
    obtain rfl | ⟨name, rfl⟩ := hname <;> rfl
  · obtain ⟨_, hbody, rfl | ⟨-, rfl⟩⟩ := mem_arrowParameter_mul.mp hfunction
    · rfl
    · obtain ⟨_, -, rfl⟩ := mem_mark_mul.mp hbody
      rfl

lemma recognizes_wrappedFunction (size : Nat) :
    Recognizes (wrappedFunction size)
      (Grammar.function bodyStatement +
        enclosed .openParen (Grammar.function bodyStatement) .closeParen) fun _ => True where
  sound hreads := by
    obtain ⟨-, h⟩ | ⟨-, behind, rfl, h⟩ := reads_wrappedFunction.mp hreads
    · obtain ⟨sentence, hsentence, rfl⟩ := (recognizes_function size).sound h
      exact ⟨sentence, .inl hsentence, rfl⟩
    · obtain ⟨sentence, hsentence, rfl⟩ := (recognizes_function size).sound h
      exact ⟨_, .inr (mem_enclosed.mpr ⟨sentence, hsentence, rfl⟩), by simp⟩
  complete := by
    rintro tokens rest (h | h) hrest
    · obtain ⟨value, hvalue⟩ := (recognizes_function size).complete h hrest
      exact ⟨value, reads_wrappedFunction.mpr (.inl ⟨not_wrapped h rest, hvalue⟩)⟩
    · obtain ⟨sentence, hsentence, rfl⟩ := mem_enclosed.mp h
      obtain ⟨value, hvalue⟩ : ∃ value, (function size).Reads
          (sentence ++ .punct .closeParen :: rest) value (.punct .closeParen :: rest) :=
        (recognizes_function size).complete hsentence trivial
      refine ⟨value, reads_wrappedFunction.mpr (.inr ⟨?_, _, ?_, hvalue⟩)⟩
      · rw [List.cons_append, List.append_assoc]
        exact wrapped_cons hsentence _
      · simp

/-- Tokens are accepted exactly when they are a sentence of the grammar in which an `else` goes with
the nearest `if`. In it a word may be both a constant and the parameter; then it is the constant. -/
theorem program_accepts_iff (tokens : List Token) :
    ((∃ read, program tokens = .ok read) ↔ tokens ∈ Grammar.program bodyStatement) ∧
      ∀ (scope : Scope) (name : String),
        wordExpr scope name = .ok .parameter ↔ name = scope.parameter ∧ name ∉ constants := by
  refine ⟨?_, wordExpr_eq_parameter_iff⟩
  simp only [program_eq_ok_iff]
  constructor
  · rintro ⟨value, rest, hvalue, hrest⟩
    obtain ⟨sentence, hsentence, rfl⟩ := (recognizes_wrappedFunction _).sound hvalue
    exact Language.append_mem_mul hsentence (mem_kstar_mark.mpr hrest)
  · rintro ⟨sentence, hsentence, rest, hrest, rfl⟩
    obtain ⟨value, hvalue⟩ := (recognizes_wrappedFunction _).complete hsentence trivial
    exact ⟨value, rest, hvalue, mem_kstar_mark.mp hrest⟩

/-! ### An `else` that goes with another `if` -/

/-- A semicolon in so many blocks. -/
def nestedBlocks : Nat → List Token
  | 0 => [.punct .semicolon]
  | depth + 1 => .punct .openBrace :: (nestedBlocks depth ++ [.punct .closeBrace])

lemma semicolon_mem (parameter : String) (depth : Nat) :
    [.punct .semicolon] ∈ Grammar.anyStatement parameter (depth + 1) :=
  .inl (.inl (.inl rfl))

lemma nestedBlocks_mem (parameter : String) (depth : Nat) :
    nestedBlocks depth ∈ Grammar.anyStatement parameter (depth + 1) := by
  induction depth with
  | zero => exact semicolon_mem parameter 0
  | succ depth ih =>
    have hbody := append_mem_kstar ih (Language.nil_mem_kstar _)
    rw [List.append_nil] at hbody
    exact .inl (.inl (.inr (mem_enclosed.mpr ⟨_, hbody, rfl⟩)))

/-- The condition that the parameter is true. -/
def ifParameter (parameter : String) : List Token :=
  [.word "if", .punct .openParen, .word parameter, .punct .closeParen]

lemma mem_chained {ps : List Punct} {l : Language Token} (h : tokens ∈ l) :
    tokens ∈ chained ps l := by
  have := Language.append_mem_mul h (Language.nil_mem_kstar (marks ps * l))
  rwa [List.append_nil] at this

lemma ifParameter_mem (parameter : String) (depth : Nat) :
    ifParameter parameter ∈ Grammar.condition parameter (depth + 1) := by
  have hprimary (l : Language Token) : [.word parameter] ∈ suffixed parameter l := by
    have h : [.word parameter] ∈ Grammar.primary parameter l :=
      .inl (.inl (.inl (.inr ⟨parameter, List.mem_cons_self, rfl⟩)))
    exact Language.append_mem_mul h (Language.nil_mem_kstar _)
  have hunary : [.word parameter] ∈ unary parameter depth := by
    cases depth with
    | zero => exact hprimary 0
    | succ depth => exact .inr (hprimary _)
  have hexpression : [.word parameter] ∈ Grammar.expression parameter (depth + 1) :=
    mem_chained (mem_chained (mem_chained (mem_chained hunary)))
  exact mem_word_mul.mpr ⟨_, mem_enclosed.mpr ⟨_, hexpression, rfl⟩, rfl⟩

lemma choice_mem {parameter : String} {first yes : List Token}
    (hfirst : first ∈ Grammar.condition parameter depth)
    (hyes : yes ∈ Grammar.anyStatement parameter depth) :
    first ++ yes ∈ Grammar.anyStatement parameter (depth + 1) := by
  have hnone : [] ∈ 1 + word "else" * Grammar.anyStatement parameter depth := .inl rfl
  have h := Language.append_mem_mul hyes hnone
  rw [List.append_nil] at h
  exact .inr (Language.append_mem_mul hfirst h)

lemma choice_else_mem {parameter : String} {first yes no : List Token}
    (hfirst : first ∈ Grammar.condition parameter depth)
    (hyes : yes ∈ Grammar.anyStatement parameter depth)
    (hno : no ∈ Grammar.anyStatement parameter depth) :
    first ++ (yes ++ .word "else" :: no) ∈ Grammar.anyStatement parameter (depth + 1) := by
  have helse : .word "else" :: no ∈ 1 + word "else" * Grammar.anyStatement parameter depth :=
    .inr (mem_word_mul.mpr ⟨no, hno, rfl⟩)
  exact .inr (Language.append_mem_mul hfirst (Language.append_mem_mul hyes helse))

/-- A statement in the block of an arrow function is a whole source. -/
lemma arrowBlock_mem {statement : String → Language Token} {parameter : String}
    (hparameter : parameter ≠ "function") {sentence : List Token}
    (h : sentence ∈ statement parameter) :
    .word parameter :: .punct .arrow :: .punct .openBrace ::
      (sentence ++ [.punct .closeBrace]) ∈ Grammar.program statement := by
  have hbody := append_mem_kstar h (Language.nil_mem_kstar _)
  rw [List.append_nil] at hbody
  have hblock : .punct .openBrace :: (sentence ++ [.punct .closeBrace]) ∈
      Grammar.block (statement parameter) + Grammar.emission parameter maxDepth :=
    .inl (mem_enclosed.mpr ⟨sentence, hbody, rfl⟩)
  have hfunction : _ ∈ Grammar.function statement :=
    ⟨parameter, .inr (mem_arrowParameter_mul.mpr
      ⟨_, mem_mark_mul.mpr ⟨_, hblock, rfl⟩, .inr ⟨hparameter, rfl⟩⟩)⟩
  have hwhole : _ ∈ Grammar.function statement +
      enclosed .openParen (Grammar.function statement) .closeParen := .inl hfunction
  have hprogram := Language.append_mem_mul hwhole (Language.nil_mem_kstar (mark .semicolon))
  rwa [List.append_nil] at hprogram

/-- A choice in a choice, and an `else` with as many blocks behind it as fit if it goes with the
outer one. -/
def choices : List Token :=
  ifParameter "doc" ++ ((ifParameter "doc" ++ [.punct .semicolon]) ++
    .word "else" :: nestedBlocks (maxDepth - 2))

/-- Were an `else` free to go with any `if`, more sources would be sentences than are accepted. -/
theorem not_program_accepts_anyStatement :
    ¬ ∀ tokens, (∃ read, program tokens = .ok read) ↔
      tokens ∈ Grammar.program (Grammar.anyStatement · maxDepth) := by
  intro haccepts
  have hinner : ifParameter "doc" ++ [.punct .semicolon] ∈ Grammar.anyStatement "doc" (126 + 1) :=
    choice_mem (ifParameter_mem "doc" 125) (semicolon_mem "doc" 125)
  have hchoices : choices ∈ Grammar.anyStatement "doc" maxDepth :=
    choice_else_mem (ifParameter_mem "doc" 126) hinner (nestedBlocks_mem "doc" 126)
  obtain ⟨read, hread⟩ := (haccepts _).mpr (arrowBlock_mem (by decide) hchoices)
  have hrejected : (program (.word "doc" :: .punct .arrow :: .punct .openBrace ::
      (choices ++ [.punct .closeBrace]))).isOk = false := by
    decide +kernel
  rw [hread] at hrejected
  cases hrejected

end DocumentDb.MapFunction
