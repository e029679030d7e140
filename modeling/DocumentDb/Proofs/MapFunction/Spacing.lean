import DocumentDb.Proofs.MapFunction.Division

/-!
# Spacing between tokens

White space and whole comments in front of a source or behind one of its tokens are of no
consequence. A piece fits where it does because of what follows it, so the question is whether it
still fits where spacing follows; it does, because spacing starts with a character that stands in no
word, no number and no punctuation. The scanner then reads the same tokens, and a map function
depends on nothing else.
-/

namespace DocumentDb.MapFunction

/-! ### Spacing and the places for it -/

/-- Whether a text is of no consequence between tokens: white space, a whole block comment, or a
line comment with the end of its line. -/
inductive Spacing : List Char → Prop
  | blank {text : List Char} (h : ∀ c ∈ text, Text.isBlank c = true) : Spacing text
  | blockComment {text : List Char} (h : ¬ ['*', '/'] <:+: text) :
      Spacing ('/' :: '*' :: (text ++ ['*', '/']))
  | lineComment {text : List Char} (h : '\n' ∉ text) : Spacing ('/' :: '/' :: (text ++ ['\n']))

/-- Whether the place between two parts of a source is its start, or right behind the last of the
tokens `taken`. -/
inductive TokenEnd : List Token → List Char → List Char → Prop
  | start {after : List Char} : TokenEnd [] [] after
  | behind {pieces : List Piece} {token : Token} {spelling after : List Char}
      (h : Piece.AllFit (pieces ++ [.lexeme token spelling]) after) :
      TokenEnd (Piece.tokensOf pieces ++ [token]) (Piece.textOf pieces ++ spelling) after

/-! ### Pieces one after the other -/

namespace Piece

lemma textOf_append (pieces others : List Piece) :
    textOf (pieces ++ others) = textOf pieces ++ textOf others :=
  List.flatMap_append

lemma tokensOf_append (pieces others : List Piece) :
    tokensOf (pieces ++ others) = tokensOf pieces ++ tokensOf others :=
  List.filterMap_append

lemma allFit_append {pieces others : List Piece} {rest : List Char} :
    AllFit (pieces ++ others) rest ↔
      AllFit pieces (textOf others ++ rest) ∧ AllFit others rest := by
  induction pieces with
  | nil => exact ⟨fun h => ⟨trivial, h⟩, And.right⟩
  | cons piece pieces ih =>
    rw [List.cons_append, AllFit, AllFit, ih, textOf_append, List.append_assoc, and_assoc]

end Piece

/-- Behind each of its tokens a source has a place. -/
lemma exists_tokenEnd {source : List Char} {taken others : List Token}
    (h : Token.scan source = .ok (taken ++ others)) :
    ∃ before after, source = before ++ after ∧ TokenEnd taken before after := by
  obtain ⟨pieces, rest, hdivides, -, htokens⟩ := exists_divides h
  rcases List.eq_nil_or_concat' taken with rfl | ⟨earlier, token, rfl⟩
  · exact ⟨[], source, rfl, .start⟩
  rw [List.append_assoc, List.singleton_append] at htokens
  obtain ⟨front, back, rfl, hfront, hback⟩ := List.filterMap_eq_append_iff.mp htokens
  obtain ⟨gaps, piece, behind, rfl, hgaps, htoken, -⟩ := List.filterMap_eq_cons_iff.mp hback
  cases piece with
  | gap => cases htoken
  | lexeme token spelling =>
    cases htoken
    have hearlier : Piece.tokensOf (front ++ gaps) = earlier := by
      rw [Piece.tokensOf_append, Piece.tokensOf, hfront, Piece.tokensOf,
        List.filterMap_eq_nil_iff.mpr hgaps, List.append_nil]
    have hpieces : front ++ (gaps ++ .lexeme token spelling :: behind) =
        (front ++ gaps ++ [.lexeme token spelling]) ++ behind := by
      simp
    obtain ⟨hsource, hfit⟩ := hdivides
    rw [hpieces] at hsource hfit
    refine ⟨Piece.textOf (front ++ gaps) ++ spelling, Piece.textOf behind ++ rest, ?_, ?_⟩
    · rw [hsource]
      simp [Piece.textOf_append, Piece.text]
    · rw [← hearlier]
      exact .behind (Piece.allFit_append.mp hfit).1

/-! ### Characters that spacing starts with -/

/-- Whether a character is white space or the slash of a comment. -/
def Breaks (c : Char) : Prop := Text.isBlank c = true ∨ c = '/'

namespace Token

lemma code_of_inWord {c : Char} (h : inWord c = true) :
    c.toNat = 36 ∨ 48 ≤ c.toNat ∧ c.toNat ≤ 122 := by
  have hcases : startsWord c = true ∨ c.isDigit = true := by
    simp only [inWord, startsWord, Char.isAlphanum, Bool.or_eq_true] at h ⊢
    tauto
  rcases hcases with h | h
  · have hletter := code_of_startsWord h
    omega
  · simp only [Char.isDigit, Bool.and_eq_true, decide_eq_true_eq, UInt32.le_iff_toNat_le,
      ge_iff_le] at h
    change 48 ≤ c.toNat ∧ c.toNat ≤ 57 at h
    omega

lemma code_of_inNumber {c : Char} (h : inNumber c = true) :
    c.toNat = 46 ∨ 48 ≤ c.toNat ∧ c.toNat ≤ 122 := by
  simp only [inNumber, Bool.or_eq_true, beq_iff_eq] at h
  rcases h with ((h | rfl) | rfl) | rfl
  · have hdigit := code_of_isDigit h
    omega
  all_goals decide

lemma code_of_mem_spelling {mark : Punct} {c : Char} (h : c ∈ mark.spelling.toList) :
    c.toNat ≠ 47 ∧ 33 ≤ c.toNat ∧ c.toNat ≤ 126 := by
  have hcodes : ∀ c ∈ mark.spelling.toList, c.toNat ≠ 47 ∧ 33 ≤ c.toNat ∧ c.toNat ≤ 126 := by
    cases mark <;> simp [Punct.spelling]
  exact hcodes c h

end Token

lemma Breaks.code {c : Char} (h : Breaks c) :
    c.toNat = 47 ∨ ¬ (33 ≤ c.toNat ∧ c.toNat ≤ 126) := by
  rcases h with h | rfl
  · refine .inr fun ⟨hlow, hhigh⟩ => ?_
    rw [Token.not_isBlank_of_visible hlow hhigh] at h
    cases h
  · exact .inl rfl

/-- Where spacing starts, words, numbers and punctuation end. -/
lemma Breaks.ends {c : Char} (h : Breaks c) :
    Token.inWord c = false ∧ Token.inNumber c = false ∧
      ∀ mark : Punct, c ∉ mark.spelling.toList := by
  have hcode := h.code
  refine ⟨Bool.eq_false_iff.mpr fun hword => ?_, Bool.eq_false_iff.mpr fun hnumber => ?_,
    fun mark hmark => ?_⟩
  · have hletter := Token.code_of_inWord hword
    omega
  · have hdigit := Token.code_of_inNumber hnumber
    omega
  · have hvisible := Token.code_of_mem_spelling hmark
    omega

lemma Spacing.breaks {c : Char} {text : List Char} (h : Spacing (c :: text)) : Breaks c := by
  cases h with
  | blank h => exact .inl (h c List.mem_cons_self)
  | _ => exact .inr rfl

/-! ### Pieces in front of spacing -/

/-- A token is spelled the same where something breaks off what follows it. -/
lemma Spells.of_breaks {token : Token} {spelling before rest : List Char}
    (h : Spells token spelling (before ++ rest)) {c : Char} (hc : Breaks c) (more : List Char) :
    Spells token spelling (before ++ c :: more) := by
  obtain ⟨hword, hnumber, hmarks⟩ := hc.ends
  have hhead {p : Char → Bool} (hp : p c = false) (hrest : (before ++ rest).head?.any p = false) :
      (before ++ c :: more).head?.any p = false := by
    cases before with
    | nil => simpa using hp
    | cons => exact hrest
  cases h with
  | word hstart h hrest => exact .word hstart h (hhead hword hrest)
  | number hstart h hrest hvalue => exact .number hstart h (hhead hnumber hrest) hvalue
  | string hquote h => exact .string hquote h
  | @punct mark _ h =>
    refine .punct fun other hother => h other ?_
    -- punctuation that fits ends in front of the break, which is in none
    have hbreak : (mark.spelling.toList ++ before) ++ [c] <+:
        mark.spelling.toList ++ (before ++ c :: more) := ⟨more, by simp⟩
    have hshort : other.spelling.toList <+: mark.spelling.toList ++ before := by
      rcases List.prefix_or_prefix_of_prefix hother hbreak with hbefore | hbeyond
      · rcases List.prefix_concat_iff.mp hbefore with heq | hshort
        · exact absurd (heq ▸ by simp) (hmarks other)
        · exact hshort
      · exact absurd (hbeyond.subset (by simp)) (hmarks other)
    rw [← List.append_assoc]
    exact hshort.trans (List.prefix_append _ rest)

lemma Separates.of_append {text before rest : List Char} (h : Separates text (before ++ rest))
    (hbefore : before ≠ []) (rest' : List Char) : Separates text (before ++ rest') := by
  cases h with
  | blank h => exact .blank h
  | blockComment h => exact .blockComment h
  | lineComment h hrest =>
    cases before with
    | nil => exact absurd rfl hbefore
    | cons d before => exact .lineComment h (.inr (hrest.resolve_left (List.cons_ne_nil _ _)))

namespace Piece

/-- Pieces up to a token fit where something breaks off what follows them. -/
lemma AllFit.of_breaks {pieces : List Piece} {token : Token} {spelling rest : List Char}
    (h : AllFit (pieces ++ [.lexeme token spelling]) rest) {c : Char} (hc : Breaks c)
    (more : List Char) : AllFit (pieces ++ [.lexeme token spelling]) (c :: more) := by
  induction pieces with
  | nil => exact ⟨h.1.of_breaks hc more, trivial⟩
  | cons piece pieces ih =>
    rw [List.cons_append] at h ⊢
    obtain ⟨hfits, hothers⟩ := h
    refine ⟨?_, ih hothers⟩
    cases piece with
    | lexeme => exact hfits.of_breaks hc more
    | gap =>
      refine hfits.of_append (fun hnone => ?_) _
      obtain ⟨-, hlast, -⟩ := allFit_append.mp hothers
      rw [textOf_append, List.append_eq_nil_iff] at hnone
      exact hlast.text_ne_nil (List.append_eq_nil_iff.mp hnone.2).1

end Piece

/-! ### The scanner passes over spacing -/

/-- Spacing has no tokens. -/
lemma Spacing.scan_eq {text : List Char} (h : Spacing text) (rest : List Char) :
    Token.scan (text ++ rest) = Token.scan rest := by
  cases h with
  | blank h =>
    induction text with
    | nil => rfl
    | cons c text ih =>
      obtain ⟨hc, htext⟩ := List.forall_mem_cons.mp h
      exact (Separates.blank hc).scan_eq.trans (ih htext)
  | blockComment h => exact (Separates.blockComment h).scan_eq
  | @lineComment text h =>
    have hcomment : Token.scan ('/' :: '/' :: text ++ '\n' :: rest) = Token.scan ('\n' :: rest) :=
      (Separates.lineComment h (.inr rfl)).scan_eq
    have hend : Token.scan ('\n' :: rest) = Token.scan rest :=
      (Separates.blank (by decide)).scan_eq
    rw [← hend, ← hcomment, List.cons_append, List.cons_append, List.append_assoc]
    rfl

/-! ### Spacing is of no consequence -/

/-- Spacing at the start of a source or behind one of its tokens changes none of the tokens. -/
lemma TokenEnd.scan_eq {taken : List Token} {before after text : List Char}
    (h : TokenEnd taken before after) (htext : Spacing text) :
    Token.scan (before ++ text ++ after) = Token.scan (before ++ after) := by
  cases h with
  | start => exact htext.scan_eq after
  | @behind pieces token spelling _ h =>
    have hpieces : Piece.textOf pieces ++ spelling =
        Piece.textOf (pieces ++ [.lexeme token spelling]) := by
      simp [Piece.textOf_append, Piece.text]
    cases text with
    | nil => rw [List.append_nil]
    | cons c more =>
      rw [hpieces, List.append_assoc, h.scan_eq, List.cons_append,
        (h.of_breaks htext.breaks (more ++ after)).scan_eq, ← List.cons_append, htext.scan_eq]

/-- A map function depends on the tokens of its source only. -/
lemma compile_of_scan_eq {source source' : String}
    (h : Token.scan source'.toList = Token.scan source.toList) :
    compile source' = (compile source).map fun function => { function with source := source' } := by
  unfold compile
  rw [h]
  cases Token.scan source.toList with
  | error => rfl
  | ok tokens =>
    dsimp only
    cases program tokens <;> rfl

/-- Spacing never changes a map function: wherever the tokens of a source are split there is a place
for it, at the start or behind a token, and with spacing there the source has the same tokens, and
compiles exactly when it did, to a function with the same parameter that emits the same rows. -/
theorem compile_insert_spacing (source : String) :
    (∀ taken others, Token.scan source.toList = .ok (taken ++ others) →
      ∃ before after, source.toList = before ++ after ∧ TokenEnd taken before after) ∧
    ∀ taken before after, source.toList = before ++ after → TokenEnd taken before after →
      ∀ text, Spacing text →
        let spaced := String.ofList (before ++ text ++ after)
        Token.scan spaced.toList = Token.scan source.toList ∧
        ((∃ function, compile spaced = .ok function) ↔ ∃ function, compile source = .ok function) ∧
        ∀ function function', compile source = .ok function → compile spaced = .ok function' →
          function'.parameter = function.parameter ∧
          ∀ document, function'.call document = function.call document := by
  refine ⟨fun taken others => exists_tokenEnd, ?_⟩
  intro taken before after hsource hplace text htext spaced
  have hscan : Token.scan spaced.toList = Token.scan source.toList := by
    rw [String.toList_ofList, hplace.scan_eq htext, hsource]
  have hcompile := compile_of_scan_eq hscan
  refine ⟨hscan, ?_, ?_⟩
  · rw [hcompile]
    cases compile source <;> simp [Except.map]
  · intro function function' hfunction hfunction'
    rw [hcompile, hfunction] at hfunction'
    cases hfunction'
    exact ⟨rfl, fun _ => rfl⟩

end DocumentDb.MapFunction
