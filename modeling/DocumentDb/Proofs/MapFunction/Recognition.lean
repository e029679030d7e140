import DocumentDb.Proofs.MapFunction.Grammar
import DocumentDb.Proofs.MapFunction.Reading

/-!
# The parsers of expressions recognize their grammar

A parser recognizes a language when all it reads are sentences of it, and when it reads every
sentence that is followed by something that does not prolong it. For each combinator there is a
lemma that says what it recognizes, and the parsers of expressions are put together from them, by
induction on the levels of nesting.
-/

namespace DocumentDb.MapFunction

open scoped Computability
open Grammar MapFunction.Parser

variable {α β : Type} {l k : Language Token} {tokens : List Token}

/-! ### Sentences -/

namespace Grammar

@[simp] lemma mem_mark {p : Punct} : tokens ∈ mark p ↔ tokens = [.punct p] := Iff.rfl

@[simp] lemma mem_word {name : String} : tokens ∈ word name ↔ tokens = [.word name] := Iff.rfl

@[simp] lemma mem_mark_mul {p : Punct} :
    tokens ∈ mark p * l ↔ ∃ sentence ∈ l, tokens = .punct p :: sentence := by
  simp [Language.mem_mul, eq_comm]

@[simp] lemma mem_word_mul {name : String} :
    tokens ∈ word name * l ↔ ∃ sentence ∈ l, tokens = .word name :: sentence := by
  simp [Language.mem_mul, eq_comm]

@[simp] lemma mem_enclosed {opening closing : Punct} :
    tokens ∈ enclosed opening l closing ↔
      ∃ sentence ∈ l, tokens = .punct opening :: (sentence ++ [.punct closing]) := by
  simp [enclosed, Language.mem_mul, eq_comm]

lemma append_mem_kstar {first others : List Token} (hfirst : first ∈ l) (hothers : others ∈ l∗) :
    first ++ others ∈ l∗ := by
  rw [← Language.one_add_self_mul_kstar_eq_kstar]
  exact .inr (Language.append_mem_mul hfirst hothers)

/-- Every sentence has a first token, which is none of the marks. -/
def Avoids (l : Language Token) (ps : List Punct) : Prop :=
  ∀ sentence ∈ l, ∃ token behind, sentence = token :: behind ∧ ∀ p ∈ ps, token ≠ .punct p

lemma Avoids.head?_ne {ps : List Punct} (h : Avoids l ps) {p : Punct} (hp : p ∈ ps)
    {sentence : List Token} (hsentence : sentence ∈ l) (rest : List Token) :
    (sentence ++ rest).head? ≠ some (.punct p) := by
  obtain ⟨token, behind, rfl, htoken⟩ := h sentence hsentence
  simpa using htoken p hp

lemma Avoids.mono {ps qs : List Punct} (h : Avoids l ps) (hsub : qs ⊆ ps) : Avoids l qs := by
  intro sentence hsentence
  obtain ⟨token, behind, rfl, htoken⟩ := h sentence hsentence
  exact ⟨token, behind, rfl, fun p hp => htoken p (hsub hp)⟩

lemma avoids_zero {ps : List Punct} : Avoids 0 ps := by
  intro sentence hsentence
  cases hsentence

lemma Avoids.mul {ps : List Punct} (h : Avoids l ps) : Avoids (l * k) ps := by
  rintro _ ⟨first, hfirst, second, -, rfl⟩
  obtain ⟨token, behind, rfl, htoken⟩ := h first hfirst
  exact ⟨token, behind ++ second, rfl, htoken⟩

lemma Avoids.add {ps : List Punct} (hl : Avoids l ps) (hk : Avoids k ps) :
    Avoids (l + k) ps := by
  rintro sentence (h | h)
  · exact hl sentence h
  · exact hk sentence h

lemma avoids_mark {p : Punct} {ps : List Punct} (h : p ∉ ps) : Avoids (mark p) ps := by
  rintro _ rfl
  refine ⟨_, _, rfl, ?_⟩
  rintro q hq hpq
  cases hpq
  exact h hq

lemma avoids_key {ps : List Punct} : Avoids (anyWord + anyString) ps := by
  rintro _ (⟨name, rfl⟩ | ⟨value, rfl⟩)
  · exact ⟨_, _, rfl, fun p _ h => by cases h⟩
  · exact ⟨_, _, rfl, fun p _ h => by cases h⟩

/-- The marks that end an expression wherever it stands. -/
def closers : List Punct := [.closeParen, .closeBracket, .closeBrace]

lemma avoids_primary (parameter : String) (l : Language Token) :
    Avoids (primary parameter l) (.not :: closers) := by
  rintro _ (((((⟨n, rfl⟩ | ⟨s, rfl⟩) | ⟨name, -, rfl⟩) | h) | h) | h)
  · exact ⟨_, _, rfl, fun p _ h => by cases h⟩
  · exact ⟨_, _, rfl, fun p _ h => by cases h⟩
  · exact ⟨_, _, rfl, fun p _ h => by cases h⟩
  · exact (avoids_mark (by decide)).mul _ h
  · exact (avoids_mark (by decide)).mul _ h
  · exact (avoids_mark (by decide)).mul _ h

lemma avoids_suffixed (parameter : String) (l : Language Token) :
    Avoids (suffixed parameter l) closers :=
  ((avoids_primary parameter l).mono (List.subset_cons_self _ _)).mul

lemma avoids_unary (parameter : String) (depth : Nat) : Avoids (unary parameter depth) closers := by
  cases depth with
  | zero => exact avoids_suffixed _ _
  | succ depth => exact (avoids_mark (by decide)).mul.add (avoids_suffixed _ _)

lemma avoids_expression (parameter : String) (depth : Nat) :
    Avoids (expression parameter depth) closers := by
  cases depth with
  | zero => exact avoids_zero
  | succ depth => exact (avoids_unary parameter depth).mul.mul.mul.mul

end Grammar

/-! ### Words -/

lemma wordExpr_of_mem {name : String} (h : name ∈ constants) (scope : Scope) :
    ∃ value, wordExpr scope name = .ok value ∧ value ≠ .parameter := by
  simp only [constants, List.mem_cons, List.not_mem_nil, or_false] at h
  obtain rfl | rfl | rfl | rfl := h <;> exact ⟨_, rfl, nofun⟩

lemma wordExpr_of_not_mem {name : String} (h : name ∉ constants) (scope : Scope) :
    wordExpr scope name =
      if name = scope.parameter then .ok .parameter else .error (.unknownIdentifier name) := by
  unfold wordExpr
  split
  case h_5 => rfl
  all_goals exact absurd (by simp [constants]) h

/-- A word is the parameter when it is its name and no constant. -/
lemma wordExpr_eq_parameter_iff (scope : Scope) (name : String) :
    wordExpr scope name = .ok .parameter ↔ name = scope.parameter ∧ name ∉ constants := by
  by_cases hmem : name ∈ constants
  · obtain ⟨value, hvalue, hne⟩ := wordExpr_of_mem hmem scope
    simp [hvalue, hne, hmem]
  · rw [wordExpr_of_not_mem hmem]
    obtain rfl | h := eq_or_ne name scope.parameter
    · simp [hmem]
    · simp [h]

/-- The words that stand for a value are the constants and the parameter. -/
lemma wordExpr_isOk_iff {scope : Scope} {name : String} :
    (∃ value, wordExpr scope name = .ok value) ↔ name ∈ scope.parameter :: constants := by
  rw [List.mem_cons]
  by_cases hmem : name ∈ constants
  · obtain ⟨value, hvalue, -⟩ := wordExpr_of_mem hmem scope
    exact iff_of_true ⟨value, hvalue⟩ (.inr hmem)
  · rw [wordExpr_of_not_mem hmem, or_iff_left hmem]
    by_cases h : name = scope.parameter <;> simp [h]

/-! ### Recognition -/

/-- The tokens do not begin with one of the marks. -/
def Clear (ps : List Punct) (tokens : List Token) : Prop :=
  ∀ p ∈ ps, tokens.head? ≠ some (.punct p)

/-- What the parser reads are the sentences of the language; it is sure to read a sentence to its
end where `Stop` holds of what follows. -/
structure Recognizes (parser : Parser α) (l : Language Token) (Stop : List Token → Prop) :
    Prop where
  sound : ∀ {tokens value rest}, parser.Reads tokens value rest →
    ∃ sentence ∈ l, tokens = sentence ++ rest
  complete : ∀ {sentence rest}, sentence ∈ l → Stop rest →
    ∃ value, parser.Reads (sentence ++ rest) value rest

namespace Recognizes

variable {parser : Parser α} {Stop : List Token → Prop}

lemma fail {error : GrammarError} : Recognizes (fail error : Parser α) 0 Stop where
  sound h := absurd h reads_fail
  complete h := by cases h

/-- What is read up to a closing mark. -/
lemma closed (h : Recognizes parser l Stop) {size : Nat} {close : Punct}
    (hclose : ∀ rest, Stop (.punct close :: rest)) (f : α → β) :
    Recognizes (do let value ← parser; expect size close; return f value) (l * mark close)
      fun _ => True where
  sound hreads := by
    simp only [reads_bind, reads_expect, reads_pure] at hreads
    obtain ⟨value, _, hvalue, -, rest, rfl, rfl, rfl⟩ := hreads
    obtain ⟨sentence, hsentence, rfl⟩ := h.sound hvalue
    exact ⟨_, Language.append_mem_mul hsentence rfl, by simp⟩
  complete := by
    rintro _ rest ⟨sentence, hsentence, _, rfl, rfl⟩ -
    obtain ⟨value, hvalue⟩ := h.complete hsentence (hclose rest)
    refine ⟨f value, ?_⟩
    simp only [reads_bind, reads_expect, reads_pure, List.append_assoc]
    exact ⟨value, _, hvalue, (), rest, rfl, rfl, rfl⟩

/-! ### Operators -/

section Chain

variable {operator? : Punct → Option (Expr → Expr → Expr)} {operand : Parser Expr}
  {ps stops : List Punct}

lemma sound_chainFrom (h : Recognizes operand l (Clear stops))
    (hps : ∀ p, (operator? p).isSome ↔ p ∈ ps) {tokens rest : List Token} {left value : Expr}
    (hreads : (chainFrom operator? operand left).Reads tokens value rest) :
    ∃ sentence ∈ (marks ps * l)∗, tokens = sentence ++ rest := by
  induction hlength : tokens.length using Nat.strong_induction_on generalizing tokens left with
  | _ n ih =>
    obtain ⟨-, rfl, -⟩ | ⟨p, operator, behind, right, middle, rfl, hoperator, hright, hmore⟩ :=
      reads_chainFrom.mp hreads
    · exact ⟨[], Language.nil_mem_kstar _, rfl⟩
    · obtain ⟨sentence, hsentence, rfl⟩ := h.sound hright
      have hlt : middle.length < n := by
        rw [← hlength, List.length_cons, List.length_append]
        omega
      obtain ⟨others, hothers, rfl⟩ := ih middle.length hlt hmore rfl
      have hp : [Token.punct p] ∈ marks ps := ⟨p, (hps p).mp (by simp [hoperator]), rfl⟩
      have hpart := Language.append_mem_mul hp hsentence
      exact ⟨_, append_mem_kstar hpart hothers, by simp⟩

/-- Behind an operand comes another operator or the rest, and neither prolongs it. -/
lemma clear_flatten (hdisjoint : ∀ p ∈ ps, p ∉ stops) {parts : List (List Token)}
    (hparts : ∀ part ∈ parts, part ∈ marks ps * l) {rest : List Token}
    (hrest : Clear (stops ++ ps) rest) : Clear stops (parts.flatten ++ rest) := by
  intro q hq
  match parts with
  | [] => exact hrest q (List.mem_append_left _ hq)
  | part :: _ =>
    obtain ⟨_, ⟨p, hp, rfl⟩, _, -, rfl⟩ := hparts part List.mem_cons_self
    intro heq
    have hpq : p = q := by simpa using heq
    exact hdisjoint p hp (hpq ▸ hq)

lemma complete_chainFrom (h : Recognizes operand l (Clear stops))
    (hps : ∀ p, (operator? p).isSome ↔ p ∈ ps) (hdisjoint : ∀ p ∈ ps, p ∉ stops)
    {parts : List (List Token)} (hparts : ∀ part ∈ parts, part ∈ marks ps * l) {rest : List Token}
    (hrest : Clear (stops ++ ps) rest) (left : Expr) :
    ∃ value, (chainFrom operator? operand left).Reads (parts.flatten ++ rest) value rest := by
  induction parts generalizing left with
  | nil =>
    refine ⟨left, reads_chainFrom.mpr (.inl ⟨rfl, rfl, fun p hp => ?_⟩)⟩
    by_contra hsome
    have hmem := (hps p).mp (Option.isSome_iff_ne_none.mpr hsome)
    exact hrest p (List.mem_append_right _ hmem) hp
  | cons part parts ih =>
    rw [List.forall_mem_cons] at hparts
    obtain ⟨⟨_, ⟨p, hp, rfl⟩, sentence, hsentence, rfl⟩, hparts⟩ := hparts
    obtain ⟨operator, hoperator⟩ := Option.isSome_iff_exists.mp ((hps p).mpr hp)
    have hclear := clear_flatten hdisjoint hparts hrest
    obtain ⟨right, hright⟩ := h.complete hsentence hclear
    obtain ⟨value, hvalue⟩ := ih hparts (operator left right)
    refine ⟨value, reads_chainFrom.mpr (.inr ⟨p, operator, _, right, _, ?_, hoperator, hright,
      hvalue⟩)⟩
    simp

/-- Operands with operators between them, where no operator prolongs an operand. -/
lemma chain (h : Recognizes operand l (Clear stops)) (hps : ∀ p, (operator? p).isSome ↔ p ∈ ps)
    (hdisjoint : ∀ p ∈ ps, p ∉ stops) :
    Recognizes (chain operator? operand) (chained ps l) (Clear (stops ++ ps)) where
  sound hreads := by
    obtain ⟨first, middle, hfirst, hmore⟩ := reads_andThen.mp hreads
    obtain ⟨sentence, hsentence, rfl⟩ := h.sound hfirst
    obtain ⟨others, hothers, rfl⟩ := sound_chainFrom h hps hmore
    exact ⟨_, Language.append_mem_mul hsentence hothers, by rw [List.append_assoc]⟩
  complete := by
    rintro _ rest ⟨sentence, hsentence, _, ⟨parts, rfl, hparts⟩, rfl⟩ hrest
    have hclear := clear_flatten hdisjoint hparts hrest
    obtain ⟨first, hfirst⟩ := h.complete hsentence hclear
    obtain ⟨value, hvalue⟩ := complete_chainFrom h hps hdisjoint hparts hrest first
    refine ⟨value, reads_andThen.mpr ⟨first, _, ?_, hvalue⟩⟩
    rwa [List.append_assoc]

end Chain

/-! ### Elements and members -/

section Elements

variable {close : Punct} {size : Nat}

/-- The first of several elements is the only one, or a comma and the others are behind it. -/
lemma mem_separated_succ {n : Nat} : tokens ∈ separated l (n + 1) ↔
    ∃ sentence ∈ l, n = 0 ∧ tokens = sentence ∨
      ∃ others ∈ separated l n, tokens = sentence ++ .punct .comma :: others := by
  cases n with
  | zero =>
    simp only [separated, pow_zero, mul_one, Language.mem_mul, Language.mem_add, Language.mem_one,
      mem_mark, true_and]
    constructor
    · rintro ⟨sentence, hsentence, _, rfl | rfl, rfl⟩
      · exact ⟨sentence, hsentence, .inl (List.append_nil _)⟩
      · exact ⟨sentence, hsentence, .inr ⟨[], rfl, rfl⟩⟩
    · rintro ⟨sentence, hsentence, rfl | ⟨_, rfl, rfl⟩⟩
      · exact ⟨_, hsentence, [], .inl rfl, List.append_nil _⟩
      · exact ⟨_, hsentence, _, .inr rfl, rfl⟩
  | succ n =>
    have hunfold : separated l (n + 2) = l * (mark .comma * separated l (n + 1)) := by
      simp only [separated, pow_succ', mul_assoc]
    rw [hunfold, Language.mem_mul]
    simp only [mem_mark_mul, Nat.add_eq_zero_iff, one_ne_zero, and_false, false_and, false_or]
    constructor
    · rintro ⟨sentence, hsentence, _, ⟨others, hothers, rfl⟩, rfl⟩
      exact ⟨sentence, hsentence, others, hothers, rfl⟩
    · rintro ⟨sentence, hsentence, others, hothers, rfl⟩
      exact ⟨sentence, hsentence, _, ⟨others, hothers, rfl⟩, rfl⟩

/-- What is read of a list are sentences, as many as there are values. -/
lemma sound_elements {element : Parser α} (h : Recognizes element l Stop)
    {tokens rest : List Token} {values : List α}
    (hreads : (elements size close element).Reads tokens values rest) :
    ∃ sentence ∈ separated l values.length, tokens = sentence ++ rest := by
  induction hlength : tokens.length using Nat.strong_induction_on generalizing tokens values with
  | _ n ih =>
    obtain ⟨rfl, rfl, -⟩ | ⟨-, first, middle, hfirst, hmore⟩ := reads_elements.mp hreads
    · exact ⟨[], rfl, rfl⟩
    obtain ⟨sentence, hsentence, rfl⟩ := h.sound hfirst
    obtain ⟨rfl, rfl, -⟩ | ⟨behind, others, rfl, rfl, hothers⟩ := hmore
    · exact ⟨sentence, mem_separated_succ.mpr ⟨sentence, hsentence, .inl ⟨rfl, rfl⟩⟩, rfl⟩
    · have hlt : behind.length < n := by
        rw [← hlength, List.length_append, List.length_cons]
        omega
      obtain ⟨list, hlist, rfl⟩ := ih behind.length hlt hothers rfl
      exact ⟨_, mem_separated_succ.mpr ⟨sentence, hsentence, .inr ⟨list, hlist, rfl⟩⟩, by simp⟩

/-- A list is read up to its closing mark, if none of its elements begins with that mark. -/
lemma complete_elements {element : Parser α} (h : Recognizes element l Stop)
    (havoids : Avoids l [close]) (hstop : ∀ rest, Stop (.punct close :: rest))
    (hcomma : ∀ rest, Stop (.punct .comma :: rest)) (hne : close ≠ .comma) {n : Nat}
    {sentence : List Token} (hsentence : sentence ∈ separated l n) (rest : List Token) :
    ∃ values, values.length = n ∧
      (elements size close element).Reads (sentence ++ .punct close :: rest) values
        (.punct close :: rest) := by
  induction n generalizing sentence with
  | zero =>
    obtain rfl : sentence = [] := hsentence
    exact ⟨[], rfl, reads_elements.mpr (.inl ⟨rfl, rfl, rfl⟩)⟩
  | succ n ih =>
    obtain ⟨first, hfirst, ⟨rfl, rfl⟩ | ⟨others, hothers, rfl⟩⟩ := mem_separated_succ.mp hsentence
    · obtain ⟨value, hvalue⟩ := h.complete hfirst (hstop rest)
      refine ⟨[value], rfl, reads_elements.mpr (.inr ⟨?_, value, _, hvalue, .inl ⟨rfl, rfl, ?_⟩⟩)⟩
      · exact havoids.head?_ne List.mem_cons_self hfirst _
      · simpa using hne
    · obtain ⟨values, rfl, hvalues⟩ := ih hothers
      obtain ⟨value, hvalue⟩ := h.complete hfirst (hcomma (others ++ .punct close :: rest))
      rw [List.append_assoc]
      refine ⟨value :: values, rfl, reads_elements.mpr (.inr ⟨?_, value, _, hvalue,
        .inr ⟨_, values, rfl, rfl, hvalues⟩⟩)⟩
      exact havoids.head?_ne List.mem_cons_self hfirst _

/-- A list of elements up to its closing mark. -/
lemma elements {element : Parser α} (h : Recognizes element l Stop) (havoids : Avoids l [close])
    (hstop : ∀ rest, Stop (.punct close :: rest)) (hcomma : ∀ rest, Stop (.punct .comma :: rest))
    (hne : close ≠ .comma) :
    Recognizes (elements size close element) (listed l)
      fun rest => rest.head? = some (.punct close) where
  sound hreads := by
    obtain ⟨sentence, hsentence, rfl⟩ := sound_elements h hreads
    exact ⟨sentence, ⟨_, hsentence⟩, rfl⟩
  complete := by
    rintro sentence rest ⟨n, hsentence⟩ hrest
    obtain ⟨rest, rfl⟩ := List.head?_eq_some_iff.mp hrest
    obtain ⟨values, -, hvalues⟩ :=
      complete_elements h havoids hstop hcomma hne hsentence rest
    exact ⟨values, hvalues⟩

end Elements

/-! ### Members -/

section Members

variable {scope : Scope} {inner : Parser Expr} {E : Language Token} {stops : List Punct}

lemma memberKey (h : Recognizes inner l Stop) {size : Nat}
    (hstop : ∀ rest, Stop (.punct .closeBracket :: rest)) :
    Recognizes (memberKey size inner) (l * mark .closeBracket) fun _ => True :=
  h.closed hstop id

lemma sound_membersFrom (h : Recognizes inner l Stop)
    (hstop : ∀ rest, Stop (.punct .closeBracket :: rest)) {tokens rest : List Token}
    {base value : Expr} (hreads : (membersFrom scope inner base).Reads tokens value rest) :
    ∃ sentence ∈ (member l)∗, tokens = sentence ++ rest := by
  induction hlength : tokens.length using Nat.strong_induction_on generalizing tokens base with
  | _ n ih =>
    obtain ⟨-, rfl, -, -⟩ | ⟨behind, name, middle, rfl, hname, hmore⟩ |
      ⟨behind, key, middle, rfl, hkey, hmore⟩ := reads_membersFrom.mp hreads
    · exact ⟨[], Language.nil_mem_kstar _, rfl⟩
    · obtain rfl := reads_identifier.mp hname
      have hlt : middle.length < n := by
        rw [← hlength, List.length_cons, List.length_cons]
        omega
      obtain ⟨others, hothers, rfl⟩ := ih middle.length hlt hmore rfl
      have hmember : [.punct .dot, .word name] ∈ member l :=
        .inl (mem_mark_mul.mpr ⟨_, ⟨name, rfl⟩, rfl⟩)
      exact ⟨_, append_mem_kstar hmember hothers, rfl⟩
    · obtain ⟨sentence, hsentence, rfl⟩ := (h.memberKey hstop).sound hkey
      have hlt : middle.length < n := by
        rw [← hlength, List.length_cons, List.length_append]
        omega
      obtain ⟨others, hothers, rfl⟩ := ih middle.length hlt hmore rfl
      have hmember : .punct .openBracket :: sentence ∈ member l :=
        .inr (mem_mark_mul.mpr ⟨_, hsentence, rfl⟩)
      exact ⟨_, append_mem_kstar hmember hothers, by simp⟩

lemma complete_membersFrom (h : Recognizes inner l Stop)
    (hstop : ∀ rest, Stop (.punct .closeBracket :: rest)) {parts : List (List Token)}
    (hparts : ∀ part ∈ parts, part ∈ member l) {rest : List Token}
    (hrest : Clear [.dot, .openBracket] rest) (base : Expr) :
    ∃ value, (membersFrom scope inner base).Reads (parts.flatten ++ rest) value rest := by
  induction parts generalizing base with
  | nil =>
    refine ⟨base, reads_membersFrom.mpr (.inl ⟨rfl, rfl, ?_, ?_⟩)⟩
    · exact hrest .dot (by decide)
    · exact hrest .openBracket (by decide)
  | cons part parts ih =>
    rw [List.forall_mem_cons] at hparts
    obtain ⟨hpart, hparts⟩ := hparts
    obtain hpart | hpart := hpart
    · obtain ⟨_, ⟨name, rfl⟩, rfl⟩ := mem_mark_mul.mp hpart
      obtain ⟨value, hvalue⟩ := ih hparts (.member base (.literal (.string name)))
      exact ⟨value, reads_membersFrom.mpr (.inr (.inl ⟨_, name, _, rfl, reads_identifier.mpr rfl,
        hvalue⟩))⟩
    · obtain ⟨sentence, hsentence, rfl⟩ := mem_mark_mul.mp hpart
      obtain ⟨key, hkey⟩ : ∃ key, (MapFunction.memberKey scope.size inner).Reads
          (sentence ++ (parts.flatten ++ rest)) key (parts.flatten ++ rest) :=
        (h.memberKey hstop).complete hsentence trivial
      obtain ⟨value, hvalue⟩ := ih hparts (.member base key)
      refine ⟨value, reads_membersFrom.mpr (.inr (.inr ⟨_, key, _, ?_, hkey, hvalue⟩))⟩
      simp

end Members

/-! ### Operands -/

section Operands

variable {scope : Scope} {inner negated : Parser Expr}

lemma field (h : Recognizes inner l Stop) :
    Recognizes (field scope inner) ((anyWord + anyString) * (mark .colon * l)) Stop where
  sound hreads := by
    simp only [MapFunction.field, reads_bind, reads_fieldKey, reads_expect, reads_pure] at hreads
    obtain ⟨key, _, hkey, -, _, rfl, value, _, hvalue, -, rfl⟩ := hreads
    obtain ⟨sentence, hsentence, rfl⟩ := h.sound hvalue
    have hcolon : .punct .colon :: sentence ∈ mark .colon * l :=
      mem_mark_mul.mpr ⟨sentence, hsentence, rfl⟩
    obtain rfl | rfl := hkey
    · exact ⟨_, Language.append_mem_mul (.inl ⟨key, rfl⟩) hcolon, rfl⟩
    · exact ⟨_, Language.append_mem_mul (.inr ⟨key, rfl⟩) hcolon, rfl⟩
  complete := by
    rintro _ rest ⟨_, hkey, _, hcolon, rfl⟩ hrest
    obtain ⟨sentence, hsentence, rfl⟩ := mem_mark_mul.mp hcolon
    obtain ⟨value, hvalue⟩ := h.complete hsentence hrest
    obtain ⟨key, rfl⟩ | ⟨key, rfl⟩ := hkey
    · refine ⟨(key, value), ?_⟩
      simp only [MapFunction.field, reads_bind, reads_fieldKey, reads_expect, reads_pure]
      exact ⟨key, _, .inl rfl, (), _, rfl, value, _, hvalue, rfl, rfl⟩
    · refine ⟨(key, value), ?_⟩
      simp only [MapFunction.field, reads_bind, reads_fieldKey, reads_expect, reads_pure]
      exact ⟨key, _, .inr rfl, (), _, rfl, value, _, hvalue, rfl, rfl⟩

lemma primary (h : Recognizes inner l Stop) (havoids : Avoids l closers)
    (hstop : ∀ p ∈ .comma :: closers, ∀ rest, Stop (.punct p :: rest)) :
    Recognizes (ofHead (primary scope inner) .endOfInput) (Grammar.primary scope.parameter l)
      fun _ => True := by
  have hparen : Recognizes (parenthesized scope.size inner) (l * mark .closeParen) _ :=
    h.closed (hstop .closeParen (by decide)) id
  have hcomma := hstop .comma List.mem_cons_self
  have hbracket : Recognizes (arrayItems scope.size inner) (listed l * mark .closeBracket) _ :=
    (h.elements (havoids.mono (by decide)) (hstop .closeBracket (by decide)) hcomma
      (by decide)).closed (fun _ => rfl) Expr.array
  have hbrace : Recognizes (objectFields scope inner)
      (listed ((anyWord + anyString) * (mark .colon * l)) * mark .closeBrace) _ :=
    (h.field.elements avoids_key.mul (hstop .closeBrace (by decide)) hcomma
      (by decide)).closed (fun _ => rfl) Expr.object
  constructor
  case sound =>
    intro tokens value rest hreads
    obtain ⟨token, behind, rfl, htoken⟩ := reads_ofHead.mp hreads
    simp only [Grammar.primary, Language.mem_add, or_assoc]
    obtain ⟨n, rfl, -, rfl⟩ | ⟨s, rfl, -, rfl⟩ | ⟨name, rfl, hname, rfl⟩ | ⟨rfl, hinside⟩ |
      ⟨rfl, hinside⟩ | ⟨rfl, hinside⟩ := reads_primary.mp htoken
    · exact ⟨_, .inl ⟨n, rfl⟩, rfl⟩
    · exact ⟨_, .inr (.inl ⟨s, rfl⟩), rfl⟩
    · exact ⟨_, .inr (.inr (.inl ⟨name, wordExpr_isOk_iff.mp ⟨_, hname⟩, rfl⟩)), rfl⟩
    · obtain ⟨sentence, hsentence, rfl⟩ := hparen.sound hinside
      exact ⟨_, .inr (.inr (.inr (.inl (mem_mark_mul.mpr ⟨_, hsentence, rfl⟩)))), rfl⟩
    · obtain ⟨sentence, hsentence, rfl⟩ := hbracket.sound hinside
      exact ⟨_, .inr (.inr (.inr (.inr (.inl (mem_mark_mul.mpr ⟨_, hsentence, rfl⟩))))), rfl⟩
    · obtain ⟨sentence, hsentence, rfl⟩ := hbrace.sound hinside
      exact ⟨_, .inr (.inr (.inr (.inr (.inr (mem_mark_mul.mpr ⟨_, hsentence, rfl⟩))))), rfl⟩
  case complete =>
    intro tokens rest htokens hrest
    simp only [reads_ofHead, reads_primary]
    simp only [Grammar.primary, Language.mem_add, or_assoc] at htokens
    obtain ⟨n, rfl⟩ | ⟨s, rfl⟩ | ⟨name, hname, rfl⟩ | h | h | h := htokens
    · exact ⟨_, _, _, rfl, .inl ⟨n, rfl, rfl, rfl⟩⟩
    · exact ⟨_, _, _, rfl, .inr (.inl ⟨s, rfl, rfl, rfl⟩)⟩
    · obtain ⟨value, hvalue⟩ := wordExpr_isOk_iff.mpr hname
      exact ⟨value, _, _, rfl, .inr (.inr (.inl ⟨name, rfl, hvalue, rfl⟩))⟩
    · obtain ⟨sentence, hsentence, rfl⟩ := mem_mark_mul.mp h
      obtain ⟨value, hvalue⟩ := hparen.complete hsentence trivial
      exact ⟨value, _, _, rfl, .inr (.inr (.inr (.inl ⟨rfl, hvalue⟩)))⟩
    · obtain ⟨sentence, hsentence, rfl⟩ := mem_mark_mul.mp h
      obtain ⟨value, hvalue⟩ := hbracket.complete hsentence trivial
      exact ⟨value, _, _, rfl, .inr (.inr (.inr (.inr (.inl ⟨rfl, hvalue⟩))))⟩
    · obtain ⟨sentence, hsentence, rfl⟩ := mem_mark_mul.mp h
      obtain ⟨value, hvalue⟩ := hbrace.complete hsentence trivial
      exact ⟨value, _, _, rfl, .inr (.inr (.inr (.inr (.inr ⟨rfl, hvalue⟩))))⟩

/-- A negation or a primary expression with its members. -/
lemma operand (h : Recognizes inner l Stop) (havoids : Avoids l closers)
    (hstop : ∀ p ∈ .comma :: closers, ∀ rest, Stop (.punct p :: rest))
    (hnegated : Recognizes negated k (Clear [.dot, .openBracket])) :
    Recognizes (operand scope negated inner) (mark .not * k + suffixed scope.parameter l)
      (Clear [.dot, .openBracket]) where
  sound hreads := by
    obtain ⟨behind, e, rfl, he, rfl⟩ | ⟨-, base, middle, hbase, hmore⟩ := reads_operand.mp hreads
    · obtain ⟨sentence, hsentence, rfl⟩ := hnegated.sound he
      exact ⟨_, .inl (mem_mark_mul.mpr ⟨sentence, hsentence, rfl⟩), rfl⟩
    · obtain ⟨first, hfirst, rfl⟩ := (h.primary havoids hstop).sound hbase
      obtain ⟨others, hothers, rfl⟩ :=
        h.sound_membersFrom (hstop .closeBracket (by decide)) hmore
      exact ⟨_, .inr (Language.append_mem_mul hfirst hothers), by simp⟩
  complete := by
    rintro tokens rest (hmem | hmem) hrest
    · obtain ⟨sentence, hsentence, rfl⟩ := mem_mark_mul.mp hmem
      obtain ⟨e, he⟩ := hnegated.complete hsentence hrest
      exact ⟨.not e, reads_operand.mpr (.inl ⟨_, e, rfl, he, rfl⟩)⟩
    · obtain ⟨first, hfirst, _, ⟨parts, rfl, hparts⟩, rfl⟩ := hmem
      obtain ⟨base, hbase⟩ : ∃ base, (ofHead (MapFunction.primary scope inner) .endOfInput).Reads
          (first ++ (parts.flatten ++ rest)) base (parts.flatten ++ rest) :=
        (h.primary havoids hstop).complete hfirst trivial
      obtain ⟨value, hvalue⟩ :=
        h.complete_membersFrom (hstop .closeBracket (by decide)) hparts hrest base
      refine ⟨value, reads_operand.mpr (.inr ⟨?_, base, _, ?_, hvalue⟩)⟩
      · rw [List.append_assoc]
        exact (avoids_primary _ _).head?_ne List.mem_cons_self hfirst _
      · rwa [List.append_assoc]

end Operands

end Recognizes

/-! ### Expressions -/

/-- The marks that prolong an expression. -/
def prolonging : List Punct := [.dot, .openBracket] ++ relations ++ equalities ++ [.and] ++ [.or]

/-- The operators over operands. -/
lemma Recognizes.expressionOver {operand : Parser Expr}
    (h : Recognizes operand l (Clear [.dot, .openBracket])) :
    Recognizes (expressionOver operand) (operations l) (Clear prolonging) := by
  have hrelations (p : Punct) : (relational? p).isSome ↔ p ∈ relations := by
    cases p <;> decide
  have hequalities (p : Punct) : (equality? p).isSome ↔ p ∈ equalities := by
    cases p <;> decide
  have hand (p : Punct) : (conjunction? p).isSome ↔ p ∈ [.and] := by
    cases p <;> decide
  have hor (p : Punct) : (disjunction? p).isSome ↔ p ∈ [.or] := by
    cases p <;> decide
  exact (((h.chain hrelations (by decide)).chain hequalities (by decide)).chain hand
    (by decide)).chain hor (by decide)

lemma clear_closers (p : Punct) (hp : p ∈ .comma :: closers) (rest : List Token) :
    Clear prolonging (.punct p :: rest) := by
  intro q hq heq
  have hpq : p = q := by simpa using heq
  subst hpq
  clear heq
  revert p
  decide

lemma recognizes_operandAt (scope : Scope) (depth : Nat) :
    Recognizes (operandAt scope depth) (unary scope.parameter depth)
      (Clear [.dot, .openBracket]) := by
  induction depth with
  | zero =>
    have hfail {Stop : List Token → Prop} : Recognizes (fail .tooDeep : Parser Expr) 0 Stop :=
      Recognizes.fail
    have h := (hfail.operand avoids_zero clear_closers hfail : Recognizes (operandAt scope 0) _ _)
    rwa [mul_zero, zero_add] at h
  | succ depth ih =>
    exact ih.expressionOver.operand (avoids_expression scope.parameter (depth + 1)) clear_closers ih

/-- An expression is read to its end where nothing prolongs it. -/
lemma recognizes_expression (scope : Scope) (depth : Nat) :
    Recognizes (expression scope depth) (Grammar.expression scope.parameter depth)
      (Clear prolonging) := by
  cases depth with
  | zero => exact Recognizes.fail
  | succ depth => exact (recognizes_operandAt scope depth).expressionOver

end DocumentDb.MapFunction
