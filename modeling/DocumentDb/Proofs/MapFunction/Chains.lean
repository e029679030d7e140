import DocumentDb.Proofs.MapFunction.Division
import DocumentDb.Proofs.MapFunction.Reading

/-!
# Chains of members

A function may emit a member of a member of the document, and so on, as far as its source goes: no
level of nesting is needed for it. What such a source compiles to is found by scanning it word by
word and by reading its tokens.
-/

namespace DocumentDb.MapFunction

open MapFunction.Parser

variable {tokens rest : List Token}

/-! ### Scanning -/

lemma scan_word {c : Char} {word behind : List Char} (hstarts : Token.startsWord c)
    (hword : word.all Token.inWord) (hbehind : behind.head?.any Token.inWord = false) :
    Token.scan (c :: (word ++ behind)) =
      (Token.scan behind).map (.word (String.ofList (c :: word)) :: ·) :=
  (Spells.word hstarts (List.all_eq_true.mp hword) hbehind).scan_eq

lemma scan_punct {mark : Punct} {behind : List Char}
    (h : Punct.first? (mark.spelling.toList ++ behind) = some mark) :
    Token.scan (mark.spelling.toList ++ behind) =
      (Token.scan behind).map (.punct mark :: ·) :=
  (Spells.punct (Punct.first?_eq_some_iff.mp h).2).scan_eq

/-! ### The source of a chain -/

/-- The source of `n` members, each of the one before it, in an emission that ends there. -/
def membersSource : Nat → List Char
  | 0 => [')']
  | n + 1 => '.' :: 'a' :: membersSource n

/-- The tokens of `membersSource`. -/
def membersTokens : Nat → List Token
  | 0 => [.punct .closeParen]
  | n + 1 => .punct .dot :: .word "a" :: membersTokens n

/-- The source of a function that emits the last of `n` members, the first of them of the
document. -/
def chainSource (n : Nat) : String := "doc=>emit(doc" ++ String.ofList (membersSource n)

/-- The tokens of `chainSource`. -/
def chainTokens (n : Nat) : List Token :=
  .word "doc" :: .punct .arrow :: .word "emit" :: .punct .openParen :: .word "doc" ::
    membersTokens n

lemma membersSource_head (n : Nat) : (membersSource n).head?.any Token.inWord = false := by
  cases n with
  | zero => rfl
  | succ n => rfl

lemma scan_membersSource (n : Nat) : Token.scan (membersSource n) = .ok (membersTokens n) := by
  induction n with
  | zero =>
    refine (@scan_punct .closeParen [] rfl).trans ?_
    rw [Token.scan]
    rfl
  | succ n ih =>
    refine (@scan_punct .dot ('a' :: membersSource n) rfl).trans ?_
    have hname := @scan_word 'a' [] _ rfl rfl (membersSource_head n)
    rw [List.nil_append] at hname
    rw [hname, ih]
    rfl

lemma scan_chainSource (n : Nat) : Token.scan (chainSource n).toList = .ok (chainTokens n) := by
  have hsource : (chainSource n).toList =
      'd' :: (['o', 'c'] ++ (Punct.arrow.spelling.toList ++ 'e' :: (['m', 'i', 't'] ++
        (Punct.openParen.spelling.toList ++ 'd' :: (['o', 'c'] ++ membersSource n))))) := by
    simp [chainSource, Punct.spelling]
  rw [hsource, scan_word rfl rfl rfl, scan_punct rfl, scan_word rfl rfl rfl, scan_punct rfl,
    scan_word rfl rfl (membersSource_head n), scan_membersSource]
  rfl

/-! ### The tree of a chain -/

/-- The last of `n` members, each of the one before it, the first of them of `base`. -/
def members : Nat → Expr → Expr
  | 0, base => base
  | n + 1, base => members n (.member base (.literal (.string "a")))

/-- The parsers of the four precedences leave alone an operand in front of the parenthesis that
closes an emission. -/
lemma reads_expressionOver_operand {operand : Parser Expr} {value : Expr}
    (hoperand : operand.Reads tokens value (.punct .closeParen :: rest)) :
    (expressionOver operand).Reads tokens value (.punct .closeParen :: rest) := by
  have hchain {operator? : Punct → Option (Expr → Expr → Expr)} {parser : Parser Expr}
      (hnone : operator? .closeParen = none)
      (hreads : parser.Reads tokens value (.punct .closeParen :: rest)) :
      (chain operator? parser).Reads tokens value (.punct .closeParen :: rest) := by
    refine reads_andThen.mpr ⟨value, _, hreads, reads_chainFrom.mpr (.inl ⟨rfl, rfl, ?_⟩)⟩
    rintro mark ⟨⟩
    exact hnone
  exact hchain rfl (hchain rfl (hchain rfl (hchain rfl hoperand)))

lemma reads_membersTokens {scope : Scope} {inner : Parser Expr} (n : Nat) (base : Expr) :
    (membersFrom scope inner base).Reads (membersTokens n) (members n base)
      [.punct .closeParen] := by
  induction n generalizing base with
  | zero => exact reads_membersFrom.mpr (.inl ⟨rfl, rfl, by decide, by decide⟩)
  | succ n ih =>
    exact reads_membersFrom.mpr (.inr (.inl ⟨_, "a", membersTokens n, rfl,
      reads_identifier.mpr rfl, ih _⟩))

/-- The members are read in one loop, so they need no level of nesting. -/
lemma reads_operandAt_members {scope : Scope} {name : String} {base : Expr}
    (hname : wordExpr scope name = .ok base) (depth n : Nat) :
    (operandAt scope depth).Reads (.word name :: membersTokens n) (members n base)
      [.punct .closeParen] := by
  have hoperand {negated inner : Parser Expr} : (operand scope negated inner).Reads
      (.word name :: membersTokens n) (members n base) [.punct .closeParen] := by
    have hprimary : (primary scope inner).Reads (.word name) (membersTokens n) base
        (membersTokens n) :=
      reads_primary.mpr (.inr (.inr (.inl ⟨name, rfl, hname, rfl⟩)))
    refine reads_operand.mpr (.inr ⟨?_, base, membersTokens n, ?_, reads_membersTokens n base⟩)
    · simp
    · exact reads_ofHead.mpr ⟨_, _, rfl, hprimary⟩
  cases depth with
  | zero => exact hoperand
  | succ depth => exact hoperand

/-- The body of the function of `chainSource`. -/
def chainBody (n : Nat) : List Stmt := [.emit (some (members n .parameter)) none]

lemma program_chainTokens (n : Nat) : program (chainTokens n) = .ok ("doc", chainBody n) := by
  generalize hsize : (chainTokens n).length = size
  have hexpression : (expression ⟨"doc", size⟩ maxDepth).Reads (.word "doc" :: membersTokens n)
      (members n .parameter) [.punct .closeParen] :=
    reads_expressionOver_operand (reads_operandAt_members (by simp [wordExpr]) (maxDepth - 1) n)
  have harguments : (elements size .closeParen (expression ⟨"doc", size⟩ maxDepth)).Reads
      (.word "doc" :: membersTokens n) [members n .parameter] [.punct .closeParen] :=
    reads_elements.mpr (.inr ⟨by simp, _, _, hexpression, .inl ⟨rfl, rfl, by decide⟩⟩)
  have hemission : (emission ⟨"doc", size⟩ maxDepth).Reads
      (.punct .openParen :: .word "doc" :: membersTokens n)
      (.emit (some (members n .parameter)) none) [] :=
    reads_emission.mpr ⟨_, [_], rfl, harguments, Nat.le_succ 1, rfl⟩
  have hfunction : (function size).Reads (chainTokens n) ("doc", chainBody n) [] :=
    reads_function.mpr (.inr ⟨by simp [chainTokens], _, reads_arrowParameter.mpr (.inr rfl),
      reads_arrowBody.mpr (.inl ⟨_, _, rfl, hemission, rfl⟩)⟩)
  refine program_eq_ok_iff.mpr ⟨[], ?_, List.forall_mem_nil _⟩
  rw [hsize]
  exact reads_wrappedFunction.mpr (.inl ⟨by simp [Wrapped, chainTokens], hfunction⟩)

/-- Chains of any length compile. -/
lemma compile_chainSource (n : Nat) :
    compile (chainSource n) = .ok ⟨chainSource n, "doc", chainBody n⟩ := by
  unfold compile
  rw [scan_chainSource]
  simp only [program_chainTokens]

end DocumentDb.MapFunction
