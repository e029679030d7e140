import DocumentDb.Error
import DocumentDb.Proofs.Text.Digits
import Mathlib.Data.List.Infix
import Mathlib.Data.List.Nodup
import Mathlib.Tactic.Common

/-!
# Dividing a source into tokens

A source is made of pieces: white space and whole comments, and tokens as they are spelled. Whether
a piece can stand where it does depends on what follows, because words, numbers and punctuation are
as long as they can be. `Separates`, `Spells` and `Divides` say so without the scanner; the scanner
takes one piece after the other, so that it reads a source exactly where there is such a division,
which is unique. It does not tell a block comment that is never closed from the end of the source.
-/

namespace DocumentDb.MapFunction

open Token

/-! ### Pieces of a source -/

/-- Whether a text is white space or a whole comment in front of `rest`: a line comment goes as far
as its line or the source, a block comment as far as its first closing. -/
inductive Separates : List Char → List Char → Prop
  | blank {c : Char} {rest : List Char} (h : Text.isBlank c = true) : Separates [c] rest
  | lineComment {text rest : List Char} (h : '\n' ∉ text)
      (hrest : rest = [] ∨ rest.head? = some '\n') : Separates ('/' :: '/' :: text) rest
  | blockComment {text rest : List Char} (h : ¬ ['*', '/'] <:+: text) :
      Separates ('/' :: '*' :: (text ++ ['*', '/'])) rest

/-- What a string literal is made of: characters that stand for themselves, and escapes. -/
inductive Letter
  | plain (c : Char)
  | escape (c : Char)

namespace Letter

/-- How a letter is written. -/
def spelling : Letter → List Char
  | plain c => [c]
  | escape c => ['\\', c]

/-- The character that a letter stands for. -/
def value : Letter → Char
  | plain c => c
  | escape c => unescape c

/-- Whether a letter can stand between two quotation marks. -/
def Fits (quote : Char) : Letter → Prop
  | plain c => c ≠ quote ∧ c ≠ '\\'
  | escape _ => True

end Letter

/-- Whether a token is spelled like this in front of `rest`: words and numbers are as long as they
can be, and so is punctuation. -/
inductive Spells : Token → List Char → List Char → Prop
  | word {c : Char} {more rest : List Char} (hstart : startsWord c = true)
      (h : ∀ d ∈ more, inWord d = true) (hrest : rest.head?.any inWord = false) :
      Spells (.word (String.ofList (c :: more))) (c :: more) rest
  | number {c : Char} {more rest : List Char} {value : Extended}
      (hstart : startsNumber c more = true) (h : ∀ d ∈ more, inNumber d = true)
      (hrest : rest.head?.any inNumber = false)
      (hvalue : Numeral.readSigned? (c :: more) = some value) :
      Spells (.number value) (c :: more) rest
  | string {quote : Char} {letters : List Letter} {rest : List Char}
      (hquote : quote = '"' ∨ quote = '\'') (h : ∀ letter ∈ letters, letter.Fits quote) :
      Spells (.string (String.ofList (letters.map Letter.value)))
        (quote :: (letters.flatMap Letter.spelling ++ [quote])) rest
  | punct {mark : Punct} {rest : List Char}
      (h : ∀ other : Punct, other.spelling.toList <+: mark.spelling.toList ++ rest →
        other.spelling.length ≤ mark.spelling.length) :
      Spells (.punct mark) mark.spelling.toList rest

/-- A part of a source: a token as it is spelled, or what stands between tokens. -/
inductive Piece
  | gap (text : List Char)
  | lexeme (token : Token) (spelling : List Char)

namespace Piece

/-- The characters of a piece. -/
def text : Piece → List Char
  | gap text => text
  | lexeme _ spelling => spelling

/-- The token of a piece that is one. -/
def token? : Piece → Option Token
  | gap _ => none
  | lexeme token _ => some token

/-- Whether a piece can stand in front of `rest`. -/
def Fits : Piece → List Char → Prop
  | gap text, rest => Separates text rest
  | lexeme token spelling, rest => Spells token spelling rest

/-- The characters of pieces, one after the other. -/
def textOf (pieces : List Piece) : List Char := pieces.flatMap text

/-- The tokens of pieces, in order. -/
def tokensOf (pieces : List Piece) : List Token := pieces.filterMap token?

@[simp] lemma textOf_nil : textOf [] = [] := rfl

@[simp] lemma textOf_cons (piece : Piece) (pieces : List Piece) :
    textOf (piece :: pieces) = piece.text ++ textOf pieces := rfl

lemma tokensOf_cons (piece : Piece) (pieces : List Piece) :
    tokensOf (piece :: pieces) = piece.token?.toList ++ tokensOf pieces := by
  cases piece <;> rfl

/-- A piece is known by its characters and its token. -/
lemma ext_text {piece piece' : Piece} (htext : piece.text = piece'.text)
    (htoken : piece.token? = piece'.token?) : piece = piece' := by
  cases piece <;> cases piece' <;> simp_all [text, token?]

/-- Whether each of the pieces can stand in front of those behind it and of `rest`. -/
def AllFit : List Piece → List Char → Prop
  | [], _ => True
  | piece :: pieces, rest => piece.Fits (textOf pieces ++ rest) ∧ AllFit pieces rest

end Piece

/-- A source is made of pieces, with `rest` behind them. -/
structure Divides (pieces : List Piece) (rest source : List Char) : Prop where
  source_eq : source = Piece.textOf pieces ++ rest
  fit : Piece.AllFit pieces rest

/-- Whether this is a block comment that is never closed. -/
def Unclosed (source : List Char) : Prop :=
  ∃ text, source = '/' :: '*' :: text ∧ ¬ ['*', '/'] <:+: text

/-! ### One step of the scanner -/

namespace Token

/-- What the scanner takes from the front of a source: a token or something between tokens, and what
is left. -/
def advance? : List Char → Option (Option Token × List Char)
  | [] => none
  | c :: rest =>
    if Text.isBlank c then some (none, rest)
    else
      match if c = '/' then afterComment? rest else none with
      | some rest' => some (none, rest')
      | none =>
        if startsWord c then
          some (some (.word (String.ofList (c :: rest.takeWhile inWord))), rest.dropWhile inWord)
        else if startsNumber c rest then
          (Numeral.readSigned? (c :: rest.takeWhile inNumber)).map fun value =>
            (some (.number value), rest.dropWhile inNumber)
        else if c = '"' ∨ c = '\'' then
          (quoted? c rest).map fun (value, rest') => (some (.string (String.ofList value)), rest')
        else
          (Punct.first? (c :: rest)).map fun mark =>
            (some (.punct mark), (c :: rest).drop mark.spelling.toList.length)

/-- How the scanner goes on behind what it takes; it stops at the end and where it can take nothing.
-/
def GoesOn (source : List Char) : Option (Option Token × List Char) → Prop
  | some (token?, rest) => scan source = (scan rest).map (token?.toList ++ ·)
  | none => source = [] ∨ ∃ error, scan source = .error error

lemma goesOn_gap {source rest : List Char} (h : scan source = scan rest) :
    GoesOn source (some (none, rest)) := by
  rw [GoesOn, h]
  cases scan rest <;> rfl

lemma goesOn_map {α : Type} {source : List Char} {read : Option α} {token : α → Token}
    {rest : α → List Char} {error : LexicalError}
    (h : scan source = read.elim (.error error) fun a => (scan (rest a)).map (token a :: ·)) :
    GoesOn source (read.map fun a => (some (token a), rest a)) := by
  cases read with
  | some a => exact h
  | none => exact .inr ⟨error, h⟩

/-- Where there is nothing between tokens, the scanner reads one. -/
lemma scan_lexeme {c : Char} {rest : List Char} (hblank : ¬ Text.isBlank c = true)
    (hcomment : (if c = '/' then afterComment? rest else none) = none) :
    scan (c :: rest) =
      if startsWord c then
        (scan (rest.dropWhile inWord)).map
          (.word (String.ofList (c :: rest.takeWhile inWord)) :: ·)
      else if startsNumber c rest then
        (Numeral.readSigned? (c :: rest.takeWhile inNumber)).elim
          (.error (.badNumber (String.ofList (c :: rest.takeWhile inNumber))))
          fun value => (scan (rest.dropWhile inNumber)).map (.number value :: ·)
      else if c = '"' ∨ c = '\'' then
        (quoted? c rest).elim (.error .unterminatedString)
          fun read => (scan read.2).map (.string (String.ofList read.1) :: ·)
      else
        (Punct.first? (c :: rest)).elim (.error (.unexpectedCharacter c))
          fun mark =>
            (scan ((c :: rest).drop mark.spelling.toList.length)).map (.punct mark :: ·) := by
  rw [scan, if_neg hblank]
  split
  · rename_i hsome
    cases hcomment.symm.trans hsome
  · split_ifs
    · rfl
    · dsimp only
      cases Numeral.readSigned? (c :: rest.takeWhile inNumber) <;> rfl
    · cases quoted? c rest <;> rfl
    · cases Punct.first? (c :: rest) <;> rfl

lemma goesOn_advance (source : List Char) : GoesOn source (advance? source) := by
  cases source with
  | nil => exact .inl rfl
  | cons c rest =>
    rw [advance?]
    split
    · rename_i hblank
      exact goesOn_gap (by rw [scan, if_pos hblank])
    rename_i hblank
    split
    · rename_i behind hcomment
      refine goesOn_gap ?_
      rw [scan, if_neg hblank]
      split
      · rename_i behind' hcomment'
        cases hcomment.symm.trans hcomment'
        rfl
      · rename_i hnone
        cases hcomment.symm.trans hnone
    · rename_i hcomment
      have hscan := scan_lexeme hblank hcomment
      split
      · rename_i hword
        rw [GoesOn, hscan, if_pos hword]
        rfl
      rename_i hword
      rw [if_neg hword] at hscan
      split
      · rename_i hnumber
        rw [if_pos hnumber] at hscan
        exact goesOn_map hscan
      rename_i hnumber
      rw [if_neg hnumber] at hscan
      split
      · rename_i hquote
        rw [if_pos hquote] at hscan
        exact goesOn_map hscan
      · rename_i hquote
        rw [if_neg hquote] at hscan
        exact goesOn_map hscan

/-! ### Longest beginnings -/

lemma any_head?_dropWhile (p : Char → Bool) (cs : List Char) :
    (cs.dropWhile p).head?.any p = false := by
  have hhead := List.head?_dropWhile_not p cs
  cases hfirst : (cs.dropWhile p).head? with
  | none => rfl
  | some c =>
    rw [hfirst] at hhead
    exact hhead

/-! ### Block comments -/

lemma closes_cons_iff {c : Char} {cs : List Char} :
    ['*', '/'] <:+: c :: cs ↔ c = '*' ∧ cs.head? = some '/' ∨ ['*', '/'] <:+: cs := by
  have hslash : ['/'] <+: cs ↔ cs.head? = some '/' := by
    cases cs with
    | nil => simp
    | cons d cs => simpa using eq_comm
  rw [List.infix_cons_iff, List.cons_prefix_cons, hslash, eq_comm (b := c)]

/-- A block comment goes as far as its first closing. -/
lemma afterBlockComment_of_closed {text : List Char} (h : ¬ ['*', '/'] <:+: text)
    (rest : List Char) : afterBlockComment (text ++ '*' :: '/' :: rest) = rest := by
  induction text with
  | nil => rfl
  | cons c text ih =>
    rw [closes_cons_iff, not_or] at h
    rw [List.cons_append, afterBlockComment, ih h.2]
    rintro behind rfl hbehind
    cases text with
    | nil => cases hbehind
    | cons d text =>
      cases hbehind
      exact h.1 ⟨rfl, rfl⟩

lemma afterBlockComment_of_unclosed {cs : List Char} (h : ¬ ['*', '/'] <:+: cs) :
    afterBlockComment cs = [] := by
  fun_induction afterBlockComment cs with
  | case1 rest => exact absurd (List.prefix_append ['*', '/'] rest).isInfix h
  | case2 c rest _ ih => exact ih fun hrest => h (closes_cons_iff.mpr (.inr hrest))
  | case3 => rfl

/-- A block comment has a first closing, or it is never closed. -/
lemma exists_closing_or (cs : List Char) :
    (∃ text rest, cs = text ++ '*' :: '/' :: rest ∧ ¬ ['*', '/'] <:+: text) ∨
      ¬ ['*', '/'] <:+: cs := by
  fun_induction afterBlockComment cs with
  | case1 rest => exact .inl ⟨[], rest, rfl, by simp⟩
  | case2 c cs hopen ih =>
    rcases ih with ⟨text, rest, rfl, htext⟩ | hcs
    · refine .inl ⟨c :: text, rest, rfl, ?_⟩
      rw [closes_cons_iff, not_or]
      refine ⟨?_, htext⟩
      rintro ⟨rfl, hhead⟩
      obtain ⟨text, rfl⟩ := List.head?_eq_some_iff.mp hhead
      exact hopen _ rfl rfl
    · refine .inr ?_
      rw [closes_cons_iff, not_or]
      refine ⟨?_, hcs⟩
      rintro ⟨rfl, hhead⟩
      obtain ⟨rest, rfl⟩ := List.head?_eq_some_iff.mp hhead
      exact hopen _ rfl rfl
  | case3 => exact .inr (by simp)

/-! ### String literals -/

lemma quoted?_plain {quote c : Char} (h : (Letter.plain c).Fits quote) (cs : List Char) :
    quoted? quote (c :: cs) =
      (quoted? quote cs).map fun (value, rest) => (c :: value, rest) := by
  obtain ⟨hquote, hescape⟩ : c ≠ quote ∧ c ≠ '\\' := h
  cases cs <;> simp [quoted?, hquote, hescape]

lemma quoted?_of_letters {quote : Char} (hquote : quote ≠ '\\') {letters : List Letter}
    (h : ∀ letter ∈ letters, letter.Fits quote) (rest : List Char) :
    quoted? quote (letters.flatMap Letter.spelling ++ quote :: rest) =
      some (letters.map Letter.value, rest) := by
  induction letters with
  | nil => cases rest <;> simp [quoted?]
  | cons letter letters ih =>
    obtain ⟨hletter, hletters⟩ := List.forall_mem_cons.mp h
    rw [List.flatMap_cons, List.append_assoc, List.map_cons]
    cases letter with
    | plain c =>
      rw [Letter.spelling, List.singleton_append, quoted?_plain hletter, ih hletters]
      rfl
    | escape c =>
      rw [Letter.spelling, List.cons_append, List.singleton_append, quoted?, if_neg hquote.symm,
        if_pos rfl, ih hletters]
      rfl

lemma exists_letters {quote : Char} {cs value rest : List Char}
    (h : quoted? quote cs = some (value, rest)) :
    ∃ letters : List Letter, (∀ letter ∈ letters, letter.Fits quote) ∧
      cs = letters.flatMap Letter.spelling ++ quote :: rest ∧
      value = letters.map Letter.value := by
  fun_induction quoted? quote cs generalizing value with
  | case1 => cases h
  | case2 behind =>
    cases h
    exact ⟨[], by simp, rfl, rfl⟩
  | case3 => cases h
  | case4 e behind _ ih =>
    simp only [Option.map_eq_some_iff, Prod.mk.injEq, Prod.exists] at h
    obtain ⟨value, _, hvalue, rfl, rfl⟩ := h
    obtain ⟨letters, hletters, rfl, rfl⟩ := ih hvalue
    exact ⟨.escape e :: letters, List.forall_mem_cons.mpr ⟨trivial, hletters⟩, rfl, rfl⟩
  | case5 c behind hquote hescape ih =>
    simp only [Option.map_eq_some_iff, Prod.mk.injEq, Prod.exists] at h
    obtain ⟨value, _, hvalue, rfl, rfl⟩ := h
    obtain ⟨letters, hletters, rfl, rfl⟩ := ih hvalue
    exact ⟨.plain c :: letters, List.forall_mem_cons.mpr ⟨⟨hquote, hescape⟩, hletters⟩, rfl, rfl⟩

end Token

/-! ### Punctuation -/

namespace Punct

lemma mem_all (mark : Punct) : mark ∈ all := by
  cases mark <;> decide

lemma spelling_injective {mark other : Punct} (h : mark.spelling = other.spelling) :
    mark = other := by
  have hnodup : (all.map spelling).Nodup := by decide
  exact List.inj_on_of_nodup_map hnodup (mem_all mark) (mem_all other) h

/-- The first punctuation that fits is the longest. -/
lemma first?_eq_some_iff {cs : List Char} {mark : Punct} :
    first? cs = some mark ↔ mark.spelling.toList <+: cs ∧
      ∀ other : Punct, other.spelling.toList <+: cs →
        other.spelling.length ≤ mark.spelling.length := by
  have hlongest {mark : Punct} (h : first? cs = some mark) : mark.spelling.toList <+: cs ∧
      ∀ other : Punct, other.spelling.toList <+: cs →
        other.spelling.length ≤ mark.spelling.length := by
    -- longer punctuation stands before shorter
    have hsorted : all.Pairwise fun a b => b.spelling.length ≤ a.spelling.length := by decide
    obtain ⟨hmark, before, behind, hall, hbefore⟩ := List.find?_eq_some_iff_append.mp h
    refine ⟨List.isPrefixOf_iff_prefix.mp hmark, fun other hother => ?_⟩
    rw [hall, List.pairwise_append, List.pairwise_cons] at hsorted
    rcases List.mem_append.mp (hall ▸ mem_all other) with hmem | hmem
    · have hnot := hbefore other hmem
      rw [List.isPrefixOf_iff_prefix.mpr hother] at hnot
      cases hnot
    · rcases List.mem_cons.mp hmem with rfl | hmem
      · exact Nat.le_refl _
      · exact hsorted.2.1.1 other hmem
  refine ⟨hlongest, fun ⟨hmark, hothers⟩ => ?_⟩
  have hsome : (first? cs).isSome := by
    refine List.find?_isSome.mpr ⟨mark, mem_all mark, ?_⟩
    exact List.isPrefixOf_iff_prefix.mpr hmark
  obtain ⟨first, hfirst⟩ := Option.isSome_iff_exists.mp hsome
  obtain ⟨hfits, hfirstLongest⟩ := hlongest hfirst
  have hlength : first.spelling.toList.length = mark.spelling.toList.length :=
    Nat.le_antisymm (hothers first hfits) (hfirstLongest mark hmark)
  have hspelling : first.spelling.toList = mark.spelling.toList :=
    (List.prefix_of_prefix_length_le hfits hmark hlength.le).eq_of_length hlength
  rw [hfirst, spelling_injective (String.toList_injective hspelling)]

end Punct

/-! ### Characters that a token starts with -/

namespace Token

lemma not_isBlank_of_visible {c : Char} (h : 33 ≤ c.toNat) (h' : c.toNat ≤ 126) :
    Text.isBlank c = false := by
  rw [Bool.eq_false_iff]
  simp only [Text.isBlank, ne_eq, Bool.or_eq_true, Bool.and_eq_true, decide_eq_true_eq, beq_iff_eq]
  omega

lemma code_of_startsWord {c : Char} (h : startsWord c = true) :
    c.toNat = 36 ∨ 65 ≤ c.toNat ∧ c.toNat ≤ 122 := by
  simp only [startsWord, Bool.or_eq_true, beq_iff_eq] at h
  rcases h with (h | rfl) | rfl
  · rcases Bool.or_eq_true_iff.mp h with hupper | hlower
    · have hcode : 65 ≤ c.toNat ∧ c.toNat ≤ 90 := of_decide_eq_true hupper
      omega
    · obtain ⟨hlow, hhigh⟩ := Bool.and_eq_true_iff.mp hlower
      have hcode : 97 ≤ c.toNat ∧ c.toNat ≤ 122 :=
        ⟨of_decide_eq_true hlow, of_decide_eq_true hhigh⟩
      omega
  · decide
  · decide

lemma code_of_isDigit {c : Char} (h : Text.isDigit c = true) : 48 ≤ c.toNat ∧ c.toNat ≤ 57 := by
  simpa [Text.isDigit, Char.le_def, UInt32.le_iff_toNat_le] using h

lemma of_startsWord {c : Char} (h : startsWord c = true) : Text.isBlank c = false ∧ c ≠ '/' := by
  have hcode := code_of_startsWord h
  refine ⟨not_isBlank_of_visible (by omega) (by omega), ?_⟩
  rintro rfl
  exact absurd hcode (by decide)

lemma of_startsNumber {c : Char} {rest : List Char} (h : startsNumber c rest = true) :
    Text.isBlank c = false ∧ c ≠ '/' ∧ startsWord c = false := by
  simp only [startsNumber, Bool.or_eq_true, Bool.and_eq_true, beq_iff_eq] at h
  rcases h with h | ⟨rfl, -⟩
  · have hcode := code_of_isDigit h
    refine ⟨not_isBlank_of_visible (by omega) (by omega), ?_, ?_⟩
    · rintro rfl
      exact absurd hcode (by decide)
    · rw [Bool.eq_false_iff]
      intro hword
      have hletter := code_of_startsWord hword
      omega
  · decide

lemma of_punct (mark : Punct) : ∃ c more, mark.spelling.toList = c :: more ∧
    Text.isBlank c = false ∧ c ≠ '/' ∧ startsWord c = false ∧
    (∀ rest, startsNumber c rest = false) ∧ ¬ (c = '"' ∨ c = '\'') := by
  cases mark <;> exact ⟨_, _, rfl, by decide, by decide, by decide, fun _ => rfl, by decide⟩

/-- What follows a number does not tell whether it is one. -/
lemma startsNumber_append (c : Char) (more : List Char) {rest : List Char}
    (hrest : rest.head?.any inNumber = false) :
    startsNumber c (more ++ rest) = startsNumber c more := by
  cases more with
  | cons => rfl
  | nil =>
    cases rest with
    | nil => rfl
    | cons d rest =>
      have hdigit : Text.isDigit d = false := by
        simp only [List.head?_cons, Option.any_some, inNumber, Bool.or_eq_false_iff] at hrest
        exact hrest.1.1.1
      simp [startsNumber, hdigit]

/-! ### The scanner takes the pieces -/

lemma afterComment?_lineComment {text rest : List Char} (h : '\n' ∉ text)
    (hrest : rest = [] ∨ rest.head? = some '\n') :
    afterComment? ('/' :: (text ++ rest)) = some rest := by
  have htext : ∀ c ∈ text, (c != '\n') = true := fun c hc => bne_iff_ne.mpr fun heq => h (heq ▸ hc)
  have hstop : rest.head?.any (· != '\n') = false := by
    rcases hrest with rfl | hrest
    · rfl
    · rw [hrest]
      rfl
  exact congrArg some (Text.takeWhile_dropWhile_append htext hstop).2

lemma advance?_comment {cs rest : List Char} (h : afterComment? cs = some rest) :
    advance? ('/' :: cs) = some (none, rest) := by
  rw [advance?, if_neg (by decide)]
  simp only [if_true, h]

/-- What separates tokens is taken as a whole. -/
lemma advance?_of_separates {text rest : List Char} (h : Separates text rest) :
    advance? (text ++ rest) = some (none, rest) := by
  cases h with
  | blank h => exact if_pos h
  | lineComment h hrest => exact advance?_comment (afterComment?_lineComment h hrest)
  | @blockComment text _ h =>
    rw [List.cons_append, List.cons_append, List.append_assoc]
    exact advance?_comment (congrArg some (afterBlockComment_of_closed h rest))

/-- A token is taken as a whole. -/
lemma advance?_of_spells {token : Token} {spelling rest : List Char}
    (h : Spells token spelling rest) : advance? (spelling ++ rest) = some (some token, rest) := by
  cases h with
  | word hstart h hrest =>
    obtain ⟨hblank, hslash⟩ := of_startsWord hstart
    obtain ⟨htake, hdrop⟩ := Text.takeWhile_dropWhile_append h hrest
    rw [List.cons_append]
    simp [advance?, hblank, hslash, hstart, htake, hdrop]
  | @number c more _ value hstart h hrest hvalue =>
    have hstart' := hstart
    rw [← startsNumber_append c more hrest] at hstart'
    obtain ⟨hblank, hslash, hword⟩ := of_startsNumber hstart
    obtain ⟨htake, hdrop⟩ := Text.takeWhile_dropWhile_append h hrest
    rw [List.cons_append]
    simp [advance?, hblank, hslash, hword, hstart', htake, hdrop, hvalue]
  | @string quote letters _ hquote h =>
    have hescape : quote ≠ '\\' := by
      rcases hquote with rfl | rfl <;> decide
    obtain ⟨hblank, hslash, hword, hnumber⟩ : Text.isBlank quote = false ∧ quote ≠ '/' ∧
        startsWord quote = false ∧ ∀ cs, startsNumber quote cs = false := by
      rcases hquote with rfl | rfl <;> exact ⟨by decide, by decide, by decide, fun _ => rfl⟩
    rw [List.cons_append, List.append_assoc, List.singleton_append]
    simp [advance?, hblank, hslash, hword, hnumber, hquote, quoted?_of_letters hescape h]
  | @punct mark _ h =>
    have hfirst := Punct.first?_eq_some_iff.mpr ⟨List.prefix_append _ rest, h⟩
    obtain ⟨c, more, hspelling, hblank, hslash, hword, hnumber, hquote⟩ := of_punct mark
    rw [hspelling, List.cons_append] at hfirst ⊢
    have hdrop : (c :: (more ++ rest)).drop mark.spelling.toList.length = rest := by
      rw [hspelling, ← List.cons_append, List.drop_left]
    simp only [advance?, hblank, hslash, hword, hnumber, hquote, hfirst, Bool.false_eq_true,
      if_false, Option.map_some, hdrop]

lemma advance?_of_unclosed {source : List Char} (h : Unclosed source) :
    advance? source = some (none, []) := by
  obtain ⟨text, rfl, htext⟩ := h
  exact advance?_comment (congrArg some (afterBlockComment_of_unclosed htext))

/-- Pieces are taken as a whole. -/
lemma advance?_of_fits {piece : Piece} {rest : List Char} (h : piece.Fits rest) :
    advance? (piece.text ++ rest) = some (piece.token?, rest) := by
  cases piece with
  | gap => exact advance?_of_separates h
  | lexeme => exact advance?_of_spells h

lemma exists_of_afterComment? {cs rest : List Char} (h : afterComment? cs = some rest) :
    (∃ text, Separates ('/' :: text) rest ∧ cs = text ++ rest) ∨
      Unclosed ('/' :: cs) ∧ rest = [] := by
  unfold afterComment? at h
  split at h
  · rename_i line
    cases h
    have hrest := any_head?_dropWhile (· != '\n') line
    refine .inl ⟨'/' :: line.takeWhile (· != '\n'), .lineComment ?_ ?_,
      congrArg ('/' :: ·) List.takeWhile_append_dropWhile.symm⟩
    · intro hmem
      exact absurd (List.mem_takeWhile_imp hmem) (by decide)
    · generalize line.dropWhile (· != '\n') = rest at hrest
      cases rest with
      | nil => exact .inl rfl
      | cons c rest => exact .inr (by simpa using hrest)
  · rename_i block
    cases h
    rcases exists_closing_or block with ⟨text, rest, rfl, htext⟩ | hblock
    · refine .inl ⟨'*' :: (text ++ ['*', '/']), ?_, ?_⟩
      · exact .blockComment htext
      · rw [afterBlockComment_of_closed htext, List.cons_append, List.append_assoc]
        rfl
    · exact .inr ⟨⟨block, rfl, hblock⟩, afterBlockComment_of_unclosed hblock⟩
  · cases h

/-- What is taken is a piece, or a block comment that is never closed. -/
lemma exists_piece_of_advance? {source rest : List Char} {token? : Option Token}
    (h : advance? source = some (token?, rest)) :
    (∃ piece : Piece, piece.Fits rest ∧ source = piece.text ++ rest ∧ piece.token? = token?) ∨
      Unclosed source ∧ token? = none ∧ rest = [] := by
  cases source with
  | nil => cases h
  | cons c cs =>
    rw [advance?] at h
    split at h
    · rename_i hblank
      cases h
      exact .inl ⟨.gap [c], .blank hblank, rfl, rfl⟩
    split at h
    · rename_i behind hcomment
      cases h
      split at hcomment
      · rename_i hslash
        subst hslash
        rcases exists_of_afterComment? hcomment with ⟨text, htext, rfl⟩ | ⟨hunclosed, hrest⟩
        · exact .inl ⟨.gap ('/' :: text), htext, rfl, rfl⟩
        · exact .inr ⟨hunclosed, rfl, hrest⟩
      · cases hcomment
    refine .inl ?_
    split at h
    · rename_i hword
      cases h
      exact ⟨.lexeme _ _,
        .word hword (fun _ => List.mem_takeWhile_imp) (any_head?_dropWhile inWord cs),
        congrArg (c :: ·) List.takeWhile_append_dropWhile.symm, rfl⟩
    split at h
    · rename_i hnumber
      obtain ⟨value, hvalue, heq⟩ := Option.map_eq_some_iff.mp h
      cases heq
      have hrest := any_head?_dropWhile inNumber cs
      rw [← List.takeWhile_append_dropWhile (p := inNumber) (l := cs),
        startsNumber_append c _ hrest] at hnumber
      exact ⟨.lexeme _ _, .number hnumber (fun _ => List.mem_takeWhile_imp) hrest hvalue,
        congrArg (c :: ·) List.takeWhile_append_dropWhile.symm, rfl⟩
    split at h
    · rename_i hquote
      obtain ⟨⟨value, behind⟩, hvalue, heq⟩ := Option.map_eq_some_iff.mp h
      cases heq
      obtain ⟨letters, hletters, rfl, rfl⟩ := exists_letters hvalue
      refine ⟨.lexeme _ _, .string hquote hletters, ?_, rfl⟩
      simp [Piece.text]
    · obtain ⟨mark, hmark, heq⟩ := Option.map_eq_some_iff.mp h
      cases heq
      obtain ⟨⟨behind, hbehind⟩, hlongest⟩ := Punct.first?_eq_some_iff.mp hmark
      rw [← hbehind] at hlongest ⊢
      rw [List.drop_left]
      exact ⟨.lexeme _ _, .punct hlongest, rfl, rfl⟩

end Token

/-! ### The scanner takes all pieces -/

namespace Piece

/-- A piece has a character. -/
lemma Fits.text_ne_nil {piece : Piece} {rest : List Char} (h : piece.Fits rest) :
    piece.text ≠ [] := by
  cases piece with
  | gap text => cases h <;> exact List.cons_ne_nil _ _
  | lexeme token spelling =>
    cases h with
    | @punct mark _ hlongest =>
      obtain ⟨c, more, hspelling, -⟩ := Token.of_punct mark
      rw [text, hspelling]
      exact List.cons_ne_nil _ _
    | _ => exact List.cons_ne_nil _ _

/-- The scanner reads the token of a piece and goes on behind it. -/
lemma Fits.scan_eq {piece : Piece} {rest : List Char} (h : piece.Fits rest) :
    Token.scan (piece.text ++ rest) =
      (Token.scan rest).map (piece.token?.toList ++ ·) := by
  have hscan := Token.goesOn_advance (piece.text ++ rest)
  rw [Token.advance?_of_fits h] at hscan
  exact hscan

/-- The scanner reads the tokens of pieces and goes on behind them. -/
lemma AllFit.scan_eq {pieces : List Piece} {rest : List Char} (h : AllFit pieces rest) :
    Token.scan (textOf pieces ++ rest) = (Token.scan rest).map (tokensOf pieces ++ ·) := by
  induction pieces with
  | nil =>
    rw [textOf_nil, List.nil_append]
    cases Token.scan rest <;> rfl
  | cons piece pieces ih =>
    rw [textOf_cons, List.append_assoc, h.1.scan_eq, ih h.2, tokensOf_cons]
    cases Token.scan rest <;> simp [Except.map]

end Piece

/-- The scanner goes on behind what separates tokens. -/
lemma Separates.scan_eq {text rest : List Char} (h : Separates text rest) :
    Token.scan (text ++ rest) = Token.scan rest := by
  refine (@Piece.Fits.scan_eq (.gap text) rest h).trans ?_
  cases Token.scan rest <;> rfl

/-- The scanner reads a token as it is spelled. -/
lemma Spells.scan_eq {token : Token} {spelling rest : List Char} (h : Spells token spelling rest) :
    Token.scan (spelling ++ rest) = (Token.scan rest).map (token :: ·) :=
  @Piece.Fits.scan_eq (.lexeme token spelling) rest h

/-- The scanner finds nothing in a block comment that is never closed. -/
lemma Unclosed.scan_eq {source : List Char} (h : Unclosed source) : Token.scan source = .ok [] := by
  have hscan := Token.goesOn_advance source
  rw [Token.advance?_of_unclosed h] at hscan
  rw [hscan, Token.scan]
  rfl

/-- A block comment that is never closed does not start with a piece. -/
lemma Unclosed.not_fits {piece : Piece} {rest : List Char} (h : Unclosed (piece.text ++ rest)) :
    ¬ piece.Fits rest := by
  intro hfits
  have htaken := Token.advance?_of_unclosed h
  rw [Token.advance?_of_fits hfits] at htaken
  obtain ⟨comment, hcomment, hopen⟩ := h
  cases piece with
  | lexeme => cases htaken
  | gap text =>
    cases htaken
    cases hfits with
    | blank => cases hcomment
    | lineComment => cases hcomment
    | @blockComment text _ htext =>
      cases hcomment
      exact hopen ⟨text, [], by simp⟩

/-- A source that the scanner reads is made of pieces with the tokens that it finds. -/
lemma exists_divides {source : List Char} {tokens : List Token}
    (h : Token.scan source = .ok tokens) :
    ∃ pieces rest, Divides pieces rest source ∧ (rest = [] ∨ Unclosed rest) ∧
      Piece.tokensOf pieces = tokens := by
  -- on the length of the source, because what is left behind a piece is shorter
  induction hlength : source.length using Nat.strong_induction_on generalizing source tokens with
  | _ n ih =>
    have hscan := Token.goesOn_advance source
    cases htaken : Token.advance? source with
    | none =>
      rw [htaken] at hscan
      rcases hscan with rfl | ⟨error, herror⟩
      · rw [Token.scan] at h
        cases h
        exact ⟨[], [], ⟨rfl, trivial⟩, .inl rfl, rfl⟩
      · cases h.symm.trans herror
    | some taken =>
      obtain ⟨token?, behind⟩ := taken
      rcases Token.exists_piece_of_advance? htaken with ⟨piece, hfits, rfl, rfl⟩ | ⟨hunclosed, -⟩
      · obtain ⟨others, hothers, rfl⟩ :
            ∃ others, Token.scan behind = .ok others ∧ piece.token?.toList ++ others = tokens := by
          rw [hfits.scan_eq] at h
          cases hothers : Token.scan behind with
          | error error =>
            rw [hothers] at h
            cases h
          | ok others =>
            rw [hothers] at h
            exact ⟨others, rfl, Except.ok.inj h⟩
        have hshorter : behind.length < n := by
          rw [← hlength, List.length_append]
          exact Nat.lt_add_of_pos_left (List.length_pos_iff.mpr hfits.text_ne_nil)
        obtain ⟨pieces, rest, hdivides, hrest, rfl⟩ := ih _ hshorter hothers rfl
        refine ⟨piece :: pieces, rest, ⟨?_, ?_, hdivides.fit⟩, hrest, Piece.tokensOf_cons _ _⟩
        · rw [hdivides.source_eq, Piece.textOf_cons, List.append_assoc]
        · rw [← hdivides.source_eq]
          exact hfits
      · rw [hunclosed.scan_eq] at h
        cases h
        exact ⟨[], source, ⟨rfl, trivial⟩, .inr hunclosed, rfl⟩

/-- A source is made of pieces in one way only. -/
lemma Divides.unique {pieces pieces' : List Piece} {rest rest' source : List Char}
    (h : Divides pieces rest source) (hrest : rest = [] ∨ Unclosed rest)
    (h' : Divides pieces' rest' source) (hrest' : rest' = [] ∨ Unclosed rest') :
    pieces = pieces' ∧ rest = rest' := by
  have hstop {piece : Piece} {pieces : List Piece} {behind last : List Char}
      (hfit : Piece.AllFit (piece :: pieces) behind) (hlast : last = [] ∨ Unclosed last) :
      last ≠ Piece.textOf (piece :: pieces) ++ behind := by
    rintro rfl
    rw [Piece.textOf_cons, List.append_assoc] at hlast
    rcases hlast with hlast | hlast
    · exact hfit.1.text_ne_nil (List.append_eq_nil_iff.mp hlast).1
    · exact hlast.not_fits hfit.1
  induction pieces generalizing pieces' source with
  | nil =>
    cases pieces' with
    | nil => exact ⟨rfl, h.source_eq.symm.trans h'.source_eq⟩
    | cons piece' pieces' =>
      exact absurd (h.source_eq.symm.trans h'.source_eq) (hstop h'.fit hrest)
  | cons piece pieces ih =>
    cases pieces' with
    | nil => exact absurd (h'.source_eq.symm.trans h.source_eq) (hstop h.fit hrest')
    | cons piece' pieces' =>
      have hsource := h.source_eq.symm.trans h'.source_eq
      rw [Piece.textOf_cons, Piece.textOf_cons, List.append_assoc, List.append_assoc] at hsource
      have htaken := Token.advance?_of_fits h.fit.1
      rw [hsource, Token.advance?_of_fits h'.fit.1] at htaken
      obtain ⟨htoken, hbehind⟩ := Prod.mk.inj (Option.some.inj htaken)
      rw [hbehind] at hsource
      cases Piece.ext_text (List.append_cancel_right hsource) htoken.symm
      obtain ⟨rfl, hrests⟩ := ih ⟨rfl, h.fit.2⟩ ⟨hbehind.symm, h'.fit.2⟩
      exact ⟨rfl, hrests⟩

/-! ### What the scanner accepts -/

/-- The scanner accounts for every character, but for a block comment that is never closed: it finds
tokens where the source is made of pieces with these tokens, all of it or up to such a comment. A
source with such a comment is not made of pieces as a whole, and still read; any other source that
is not made of pieces is no map function. -/
theorem scan_ok_iff (source : String) :
    (∀ tokens, Token.scan source.toList = .ok tokens ↔
      ∃ pieces rest, Divides pieces rest source.toList ∧ (rest = [] ∨ Unclosed rest) ∧
        Piece.tokensOf pieces = tokens) ∧
    (∀ pieces rest, Divides pieces rest source.toList → Unclosed rest →
      ¬ ∃ pieces, Divides pieces [] source.toList) ∧
    ((¬ ∃ pieces rest, Divides pieces rest source.toList ∧ (rest = [] ∨ Unclosed rest)) →
      ∃ cause, compile source = .error (.lexical cause) ∧
        (Error.mapFunction (.lexical cause)).kind = .invalidMapFunction) := by
  refine ⟨fun tokens => ⟨exists_divides, ?_⟩, ?_, fun hnone => ?_⟩
  · rintro ⟨pieces, rest, hdivides, hrest, rfl⟩
    have hnothing : Token.scan rest = .ok [] := by
      rcases hrest with rfl | hunclosed
      · rw [Token.scan]
      · exact hunclosed.scan_eq
    rw [hdivides.source_eq, hdivides.fit.scan_eq, hnothing, Except.map, List.append_nil]
  · rintro pieces rest hdivides hunclosed ⟨pieces', hdivides'⟩
    obtain ⟨-, rfl⟩ := hdivides.unique (.inr hunclosed) hdivides' (.inl rfl)
    obtain ⟨text, htext, -⟩ := hunclosed
    cases htext
  · cases hscan : Token.scan source.toList with
    | error cause =>
      refine ⟨cause, ?_, rfl⟩
      unfold compile
      rw [hscan]
    | ok tokens =>
      obtain ⟨pieces, rest, hdivides, hrest, -⟩ := exists_divides hscan
      exact absurd ⟨pieces, rest, hdivides, hrest⟩ hnone

/-- A map function with a block comment behind it that is never closed compiles. -/
theorem not_compile_divides :
    ¬ ∀ source function, compile source = .ok function →
      ∃ pieces, Divides pieces [] source.toList := by
  intro h
  have hdivides : Divides
      [.lexeme (.word "f") ['f'], .lexeme (.punct .arrow) ['=', '>'],
        .lexeme (.punct .openBrace) ['\x7b'], .lexeme (.punct .closeBrace) ['\x7d']]
      ['/', '*'] "f=>{}/*".toList := by
    refine ⟨by decide, ?_, ?_, ?_, ?_, trivial⟩
    · exact @Spells.word 'f' [] _ (by decide) (by simp) (by decide)
    all_goals
      refine .punct fun other => ?_
      cases other <;> decide
  have hcompile : (compile "f=>{}/*").toOption.isSome = true := by decide +kernel
  cases hfunction : compile "f=>{}/*" with
  | error =>
    rw [hfunction] at hcompile
    cases hcompile
  | ok function =>
    obtain ⟨pieces, hwhole⟩ := h _ function hfunction
    have hunclosed : Unclosed ['/', '*'] := ⟨[], rfl, by decide⟩
    cases (hwhole.unique (.inl rfl) hdivides (.inr hunclosed)).2

end DocumentDb.MapFunction
