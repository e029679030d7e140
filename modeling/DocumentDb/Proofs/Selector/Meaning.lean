import DocumentDb.Selector.Matching
import Mathlib.Tactic.Common

/-!
# The meaning of selectors

A selector is a boolean formula over a document. Narrowing computes it on many documents at once,
with lists of survivors: a `$or` starts over from the documents that its selector started with, and
`$not` and `$nor` take away what a selector leaves of the survivors. What is left are the documents
that satisfy the formula, as long as their numbers tell the documents apart and the survivors stay
among those that the selector started with.
-/

namespace DocumentDb.Selector

/-! ### Selectors as formulas -/

mutual

/-- Whether a document satisfies a selector: all of its clauses. -/
def satisfies : Selector → Json → Bool
  | .mk clauses, document => satisfiesClauses clauses document

/-- Whether a document satisfies every one of the clauses. -/
def satisfiesClauses : List Clause → Json → Bool
  | [], _ => true
  | clause :: clauses, document =>
    satisfiesClause clause document && satisfiesClauses clauses document

/-- Whether a document satisfies a clause. -/
def satisfiesClause : Clause → Json → Bool
  | .and selectors, document => satisfiesAll selectors document
  | .or selectors, document => satisfiesAny selectors document
  | .not selector, document => !satisfies selector document
  | .nor selectors, document => !satisfiesAny selectors document
  | .field path condition, document => conditionHolds condition (document.get? path)

/-- Whether a document satisfies every one of the selectors. -/
def satisfiesAll : List Selector → Json → Bool
  | [], _ => true
  | selector :: selectors, document =>
    satisfies selector document && satisfiesAll selectors document

/-- Whether a document satisfies one of the selectors. -/
def satisfiesAny : List Selector → Json → Bool
  | [], _ => false
  | selector :: selectors, document =>
    satisfies selector document || satisfiesAny selectors document

end

/-! ### Numbered documents -/

/-- The numbers tell the documents of a list apart. -/
def Numbering (documents : List Numbered) : Prop :=
  ∀ a ∈ documents, ∀ b ∈ documents, a.2 = b.2 → a = b

lemma Numbering.of_subset {documents others : List Numbered} (h : Numbering documents)
    (hsubset : others ⊆ documents) : Numbering others := by
  intro a ha b hb hab
  exact h a (hsubset ha) b (hsubset hb) hab

lemma numbering_zipIdx (documents : List Json) : Numbering documents.zipIdx := by
  rintro ⟨a, i⟩ ha ⟨b, j⟩ hb rfl
  rw [List.mk_mem_zipIdx_iff_getElem?] at ha hb
  rw [ha] at hb
  cases hb
  rfl

/-- With a numbering, the number of a document is found exactly where the document is. -/
lemma Numbering.any_eq_true_iff {origin documents : List Numbered} (h : Numbering origin)
    (hsubset : documents ⊆ origin) {d : Numbered} (hd : d ∈ origin) :
    (documents.any (·.2 == d.2)) = true ↔ d ∈ documents := by
  simp only [List.any_eq_true, beq_iff_eq]
  constructor
  · rintro ⟨e, he, hnumber⟩
    rwa [h d hd e (hsubset he) hnumber.symm]
  · intro hmem
    exact ⟨d, hmem, rfl⟩

lemma Numbering.mem_without_iff {origin documents excluded : List Numbered}
    (h : Numbering origin) (hdocuments : documents ⊆ origin) (hexcluded : excluded ⊆ origin)
    {d : Numbered} : d ∈ without excluded documents ↔ d ∈ documents ∧ d ∉ excluded := by
  simp only [without, List.mem_filter, Bool.not_eq_true', Bool.eq_false_iff]
  refine and_congr_right ?_
  intro hd
  rw [Ne, h.any_eq_true_iff hexcluded (hdocuments hd)]

/-- To take away what meets a criterion leaves what does not. -/
lemma Numbering.mem_without_iff_of {documents excluded : List Numbered} {meets : Numbered → Bool}
    (h : Numbering documents)
    (hexcluded : ∀ d, d ∈ excluded ↔ d ∈ documents ∧ meets d = true) {d : Numbered} :
    d ∈ without excluded documents ↔ d ∈ documents ∧ meets d = false := by
  have hsubset : excluded ⊆ documents := fun e he => ((hexcluded e).mp he).1
  rw [h.mem_without_iff (List.Subset.refl documents) hsubset, hexcluded]
  simp only [not_and, Bool.not_eq_true]
  exact and_congr_right fun hmem => imp_iff_right hmem

/-! ### Narrowing keeps what satisfies the formula -/

mutual

/-- A selector leaves the documents that satisfy it. -/
lemma mem_narrow_iff (selector : Selector) {origin : List Numbered} (h : Numbering origin)
    {d : Numbered} :
    d ∈ narrow selector origin ↔ d ∈ origin ∧ satisfies selector d.1 = true := by
  match selector with
  | .mk clauses =>
    simp only [narrow, satisfies]
    exact mem_narrowClauses_iff clauses h (List.Subset.refl origin)

/-- Clauses leave the survivors that satisfy them all. -/
lemma mem_narrowClauses_iff (clauses : List Clause) {origin running : List Numbered}
    (h : Numbering origin) (hrunning : running ⊆ origin) {d : Numbered} :
    d ∈ narrowClauses clauses origin running ↔
      d ∈ running ∧ satisfiesClauses clauses d.1 = true := by
  match clauses with
  | [] => simp only [narrowClauses, satisfiesClauses, and_true]
  | clause :: clauses =>
    have hclause : ∀ {e}, e ∈ narrowClause clause origin running ↔ _ :=
      mem_narrowClause_iff clause h hrunning
    have hleft : narrowClause clause origin running ⊆ origin := by
      intro e he
      exact hrunning (hclause.mp he).1
    simp only [narrowClauses, satisfiesClauses, Bool.and_eq_true]
    rw [mem_narrowClauses_iff clauses h hleft, hclause, and_assoc]

/-- A clause leaves the survivors that satisfy it. -/
lemma mem_narrowClause_iff (clause : Clause) {origin running : List Numbered}
    (h : Numbering origin) (hrunning : running ⊆ origin) {d : Numbered} :
    d ∈ narrowClause clause origin running ↔
      d ∈ running ∧ satisfiesClause clause d.1 = true := by
  have hnumbering := h.of_subset hrunning
  match clause with
  | .and selectors =>
    simp only [narrowClause, satisfiesClause]
    exact mem_narrowAll_iff selectors hnumbering
  | .or selectors =>
    simp only [narrowClause, satisfiesClause, List.mem_filter]
    rw [mem_joined_iff selectors h (List.nil_subset origin)]
    constructor
    · rintro ⟨hnil | ⟨horigin, hany⟩, hnumber⟩
      · cases hnil
      · exact ⟨(h.any_eq_true_iff hrunning horigin).mp hnumber, hany⟩
    · rintro ⟨hmem, hany⟩
      exact ⟨.inr ⟨hrunning hmem, hany⟩,
        (h.any_eq_true_iff hrunning (hrunning hmem)).mpr hmem⟩
  | .not selector =>
    simp only [narrowClause, satisfiesClause, Bool.not_eq_true']
    exact hnumbering.mem_without_iff_of fun _ => mem_narrow_iff selector hnumbering
  | .nor selectors =>
    simp only [narrowClause, satisfiesClause, Bool.not_eq_true']
    exact mem_withoutAll_iff selectors hnumbering
  | .field path condition =>
    simp only [narrowClause, satisfiesClause, List.mem_filter]

/-- One selector after the other leaves what satisfies them all. -/
lemma mem_narrowAll_iff (selectors : List Selector) {running : List Numbered}
    (h : Numbering running) {d : Numbered} :
    d ∈ narrowAll selectors running ↔ d ∈ running ∧ satisfiesAll selectors d.1 = true := by
  match selectors with
  | [] => simp only [narrowAll, satisfiesAll, and_true]
  | selector :: selectors =>
    have hnarrow : ∀ {e}, e ∈ narrow selector running ↔ _ := mem_narrow_iff selector h
    have hleft : Numbering (narrow selector running) :=
      h.of_subset fun e he => (hnarrow.mp he).1
    simp only [narrowAll, satisfiesAll, Bool.and_eq_true]
    rw [mem_narrowAll_iff selectors hleft, hnarrow, and_assoc]

/-- To those joined already come the documents that satisfy one of the selectors. -/
lemma mem_joined_iff (selectors : List Selector) {origin found : List Numbered}
    (h : Numbering origin) (hfound : found ⊆ origin) {d : Numbered} :
    d ∈ joined selectors origin found ↔
      d ∈ found ∨ d ∈ origin ∧ satisfiesAny selectors d.1 = true := by
  match selectors with
  | [] => simp only [joined, satisfiesAny, Bool.false_eq_true, and_false, or_false]
  | selector :: selectors =>
    have hnarrow : ∀ {e}, e ∈ narrow selector origin ↔ _ := mem_narrow_iff selector h
    have hmem : ∀ {e}, e ∈ found ++ without found (narrow selector origin) ↔
        e ∈ found ∨ e ∈ origin ∧ satisfies selector e.1 = true := by
      intro e
      rw [List.mem_append, h.mem_without_iff (fun e he => (hnarrow.mp he).1) hfound, hnarrow]
      by_cases hold : e ∈ found
      · simp only [hold, true_or]
      · simp only [hold, false_or, not_false_eq_true, and_true]
    have hleft : found ++ without found (narrow selector origin) ⊆ origin := by
      intro e he
      rcases hmem.mp he with hold | ⟨hnew, -⟩
      · exact hfound hold
      · exact hnew
    simp only [joined, satisfiesAny, Bool.or_eq_true]
    rw [mem_joined_iff selectors h hleft, hmem, or_assoc, ← and_or_left]

/-- What satisfies none of the selectors is left. -/
lemma mem_withoutAll_iff (selectors : List Selector) {running : List Numbered}
    (h : Numbering running) {d : Numbered} :
    d ∈ withoutAll selectors running ↔ d ∈ running ∧ satisfiesAny selectors d.1 = false := by
  match selectors with
  | [] => simp only [withoutAll, satisfiesAny, and_true]
  | selector :: selectors =>
    have hwithout : ∀ {e}, e ∈ without (narrow selector running) running ↔ _ :=
      h.mem_without_iff_of fun _ => mem_narrow_iff selector h
    have hleft : Numbering (without (narrow selector running) running) :=
      h.of_subset fun e he => (hwithout.mp he).1
    simp only [withoutAll, satisfiesAny, Bool.or_eq_false_iff]
    rw [mem_withoutAll_iff selectors hleft, hwithout, and_assoc]

end

end DocumentDb.Selector
