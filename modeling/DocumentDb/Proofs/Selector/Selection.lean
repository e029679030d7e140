import DocumentDb.Proofs.Selector.Meaning
import Mathlib.Data.List.Nodup

/-!
# The positions that a selector selects

The positions selected are those of the documents that satisfy the selector. No position comes
twice. Only `$or` changes the order, as it lists what its selectors leave one after the other;
below `$not` and `$nor`, where it serves to take documents away, that order is lost again. Without
`$or` elsewhere the positions come in increasing order.
-/

namespace DocumentDb.Selector

/-! ### No position comes twice -/

lemma without_sublist (excluded documents : List Numbered) :
    (without excluded documents).Sublist documents :=
  List.filter_sublist

lemma withoutAll_sublist (selectors : List Selector) (running : List Numbered) :
    (withoutAll selectors running).Sublist running := by
  induction selectors generalizing running with
  | nil => exact List.Sublist.refl running
  | cons selector selectors ih =>
    rw [withoutAll]
    exact (ih _).trans (without_sublist _ running)

lemma not_mem_without {excluded documents : List Numbered} {d : Numbered} (hd : d ∈ excluded) :
    d ∉ without excluded documents := by
  simp only [without, List.mem_filter, Bool.not_eq_true', List.any_eq_false, beq_iff_eq]
  rintro ⟨-, hnone⟩
  exact hnone d hd rfl

mutual

lemma nodup_narrow (selector : Selector) {origin : List Numbered} (h : origin.Nodup) :
    (narrow selector origin).Nodup := by
  match selector with
  | .mk clauses =>
    rw [narrow]
    exact nodup_narrowClauses clauses h h

lemma nodup_narrowClauses (clauses : List Clause) {origin running : List Numbered}
    (h : origin.Nodup) (hrunning : running.Nodup) :
    (narrowClauses clauses origin running).Nodup := by
  match clauses with
  | [] => exact hrunning
  | clause :: clauses =>
    rw [narrowClauses]
    exact nodup_narrowClauses clauses h (nodup_narrowClause clause h hrunning)

lemma nodup_narrowClause (clause : Clause) {origin running : List Numbered} (h : origin.Nodup)
    (hrunning : running.Nodup) : (narrowClause clause origin running).Nodup := by
  match clause with
  | .and selectors =>
    rw [narrowClause]
    exact nodup_narrowAll selectors hrunning
  | .or selectors =>
    rw [narrowClause]
    exact (nodup_joined selectors h List.nodup_nil).filter _
  | .not selector =>
    rw [narrowClause]
    exact hrunning.sublist (without_sublist _ running)
  | .nor selectors =>
    rw [narrowClause]
    exact hrunning.sublist (withoutAll_sublist selectors running)
  | .field path condition =>
    rw [narrowClause]
    exact hrunning.filter _

lemma nodup_narrowAll (selectors : List Selector) {running : List Numbered}
    (h : running.Nodup) : (narrowAll selectors running).Nodup := by
  match selectors with
  | [] => exact h
  | selector :: selectors =>
    rw [narrowAll]
    exact nodup_narrowAll selectors (nodup_narrow selector h)

lemma nodup_joined (selectors : List Selector) {origin found : List Numbered} (h : origin.Nodup)
    (hfound : found.Nodup) : (joined selectors origin found).Nodup := by
  match selectors with
  | [] => exact hfound
  | selector :: selectors =>
    have hnew := (nodup_narrow selector h).sublist (without_sublist found _)
    rw [joined]
    refine nodup_joined selectors h (List.nodup_append.mpr ⟨hfound, hnew, ?_⟩)
    rintro d hold _ hmem rfl
    exact not_mem_without hold hmem

end

/-! ### Narrowing keeps the order -/

mutual

/-- Whether a selector has no `$or` outside of `$not` and `$nor`. -/
def orsNegated : Selector → Bool
  | .mk clauses => orsNegatedClauses clauses

/-- Whether clauses have no `$or` outside of `$not` and `$nor`. -/
def orsNegatedClauses : List Clause → Bool
  | [] => true
  | clause :: clauses => orsNegatedClause clause && orsNegatedClauses clauses

/-- Whether a clause has no `$or` outside of `$not` and `$nor`. -/
def orsNegatedClause : Clause → Bool
  | .and selectors => orsNegatedAll selectors
  | .or _ => false
  | .not _ | .nor _ | .field _ _ => true

/-- Whether selectors have no `$or` outside of `$not` and `$nor`. -/
def orsNegatedAll : List Selector → Bool
  | [] => true
  | selector :: selectors => orsNegated selector && orsNegatedAll selectors

end

mutual

/-- Without `$or` a selector only takes documents away. -/
lemma narrow_sublist (selector : Selector) (hors : orsNegated selector = true)
    (origin : List Numbered) : (narrow selector origin).Sublist origin := by
  match selector with
  | .mk clauses =>
    rw [narrow]
    exact narrowClauses_sublist clauses hors origin origin

lemma narrowClauses_sublist (clauses : List Clause) (hors : orsNegatedClauses clauses = true)
    (origin running : List Numbered) :
    (narrowClauses clauses origin running).Sublist running := by
  match clauses with
  | [] => exact List.Sublist.refl running
  | clause :: clauses =>
    simp only [orsNegatedClauses, Bool.and_eq_true] at hors
    rw [narrowClauses]
    exact (narrowClauses_sublist clauses hors.2 origin _).trans
      (narrowClause_sublist clause hors.1 origin running)

lemma narrowClause_sublist (clause : Clause) (hors : orsNegatedClause clause = true)
    (origin running : List Numbered) :
    (narrowClause clause origin running).Sublist running := by
  match clause with
  | .and selectors =>
    rw [narrowClause]
    exact narrowAll_sublist selectors hors running
  | .or selectors => cases hors
  | .not selector =>
    rw [narrowClause]
    exact without_sublist _ running
  | .nor selectors =>
    rw [narrowClause]
    exact withoutAll_sublist selectors running
  | .field path condition =>
    rw [narrowClause]
    exact List.filter_sublist

lemma narrowAll_sublist (selectors : List Selector) (hors : orsNegatedAll selectors = true)
    (running : List Numbered) : (narrowAll selectors running).Sublist running := by
  match selectors with
  | [] => exact List.Sublist.refl running
  | selector :: selectors =>
    simp only [orsNegatedAll, Bool.and_eq_true] at hors
    rw [narrowAll]
    exact (narrowAll_sublist selectors hors.2 _).trans (narrow_sublist selector hors.1 running)

end

/-! ### Reordered selectors -/

mutual

/-- A selector with its clauses in another order, and so at every depth. -/
inductive Reordered : Selector → Selector → Prop
  | mk {clauses others : List Clause} (h : ReorderedClauses clauses others) :
      Reordered (.mk clauses) (.mk others)

/-- Clauses in another order, each reordered in itself. -/
inductive ReorderedClauses : List Clause → List Clause → Prop
  | nil : ReorderedClauses [] []
  | cons {clause other : Clause} {clauses others : List Clause} (h : ReorderedClause clause other)
      (hrest : ReorderedClauses clauses others) :
      ReorderedClauses (clause :: clauses) (other :: others)
  | swap (first second : Clause) (clauses : List Clause) :
      ReorderedClauses (first :: second :: clauses) (second :: first :: clauses)
  | trans {first second third : List Clause} (h : ReorderedClauses first second)
      (hnext : ReorderedClauses second third) : ReorderedClauses first third

/-- A clause with its selectors reordered. -/
inductive ReorderedClause : Clause → Clause → Prop
  | and {selectors others : List Selector} (h : ReorderedAll selectors others) :
      ReorderedClause (.and selectors) (.and others)
  | or {selectors others : List Selector} (h : ReorderedAll selectors others) :
      ReorderedClause (.or selectors) (.or others)
  | not {selector other : Selector} (h : Reordered selector other) :
      ReorderedClause (.not selector) (.not other)
  | nor {selectors others : List Selector} (h : ReorderedAll selectors others) :
      ReorderedClause (.nor selectors) (.nor others)
  | field (path : String) (condition : Condition) :
      ReorderedClause (.field path condition) (.field path condition)

/-- Selectors in another order, each reordered in itself. -/
inductive ReorderedAll : List Selector → List Selector → Prop
  | nil : ReorderedAll [] []
  | cons {selector other : Selector} {selectors others : List Selector}
      (h : Reordered selector other) (hrest : ReorderedAll selectors others) :
      ReorderedAll (selector :: selectors) (other :: others)
  | swap (first second : Selector) (selectors : List Selector) :
      ReorderedAll (first :: second :: selectors) (second :: first :: selectors)
  | trans {first second third : List Selector} (h : ReorderedAll first second)
      (hnext : ReorderedAll second third) : ReorderedAll first third

end

mutual

lemma Reordered.satisfies_eq {selector other : Selector} (h : Reordered selector other)
    (document : Json) : satisfies other document = satisfies selector document := by
  match h with
  | .mk h => exact h.satisfiesClauses_eq document

lemma ReorderedClauses.satisfiesClauses_eq {clauses others : List Clause}
    (h : ReorderedClauses clauses others) (document : Json) :
    satisfiesClauses others document = satisfiesClauses clauses document := by
  match h with
  | .nil => rfl
  | .cons h hrest =>
    simp only [satisfiesClauses, h.satisfiesClause_eq document, hrest.satisfiesClauses_eq document]
  | .swap first second clauses => exact Bool.and_left_comm _ _ _
  | .trans h hnext =>
    rw [hnext.satisfiesClauses_eq document, h.satisfiesClauses_eq document]

lemma ReorderedClause.satisfiesClause_eq {clause other : Clause} (h : ReorderedClause clause other)
    (document : Json) : satisfiesClause other document = satisfiesClause clause document := by
  match h with
  | .and h => exact (h.satisfies_eq document).1
  | .or h => exact (h.satisfies_eq document).2
  | .not h => simp only [satisfiesClause, h.satisfies_eq document]
  | .nor h => simp only [satisfiesClause, (h.satisfies_eq document).2]
  | .field path condition => rfl

lemma ReorderedAll.satisfies_eq {selectors others : List Selector}
    (h : ReorderedAll selectors others) (document : Json) :
    satisfiesAll others document = satisfiesAll selectors document ∧
      satisfiesAny others document = satisfiesAny selectors document := by
  match h with
  | .nil => exact ⟨rfl, rfl⟩
  | .cons h hrest =>
    simp only [satisfiesAll, satisfiesAny, h.satisfies_eq document, hrest.satisfies_eq document,
      and_self]
  | .swap first second selectors =>
    exact ⟨Bool.and_left_comm _ _ _, Bool.or_left_comm _ _ _⟩
  | .trans h hnext =>
    rw [(hnext.satisfies_eq document).1, (hnext.satisfies_eq document).2]
    exact h.satisfies_eq document

end

/-! ### The positions selected -/

lemma nodup_zipIdx (documents : List Json) : documents.zipIdx.Nodup := by
  refine List.Nodup.of_map Prod.snd ?_
  rw [List.zipIdx_map_snd]
  exact List.nodup_range' 1

/-- The positions selected are those of the documents that satisfy the selector. -/
lemma mem_select_iff (selector : Selector) (documents : List Json) (position : Nat) :
    position ∈ selector.select documents ↔
      ∃ document, documents[position]? = some document ∧ selector.satisfies document = true := by
  simp only [select, List.mem_map, mem_narrow_iff selector (numbering_zipIdx documents)]
  constructor
  · rintro ⟨⟨document, _⟩, ⟨hmem, hsatisfies⟩, rfl⟩
    exact ⟨document, List.mk_mem_zipIdx_iff_getElem?.mp hmem, hsatisfies⟩
  · rintro ⟨document, hdocument, hsatisfies⟩
    exact ⟨(document, position), ⟨List.mk_mem_zipIdx_iff_getElem?.mpr hdocument, hsatisfies⟩, rfl⟩

lemma matchesDocument_eq (selector : Selector) (document : Json) :
    selector.matchesDocument document = selector.satisfies document := by
  have hnumbering : Numbering [(document, 0)] := numbering_zipIdx [document]
  rw [matchesDocument, Bool.eq_iff_iff, Bool.not_eq_true', List.isEmpty_eq_false_iff_exists_mem]
  simp only [mem_narrow_iff selector hnumbering, List.mem_singleton, exists_eq_left]

lemma nodup_select (selector : Selector) (documents : List Json) :
    (selector.select documents).Nodup := by
  have hnumbering := numbering_zipIdx documents
  refine (nodup_narrow selector (nodup_zipIdx documents)).map_on ?_
  intro a ha b hb
  exact hnumbering a ((mem_narrow_iff selector hnumbering).mp ha).1
    b ((mem_narrow_iff selector hnumbering).mp hb).1

lemma select_increasing {selector : Selector} (hors : selector.orsNegated = true)
    (documents : List Json) : (selector.select documents).Pairwise (· < ·) := by
  have hsublist := (narrow_sublist selector hors documents.zipIdx).map Prod.snd
  rw [List.zipIdx_map_snd] at hsublist
  exact List.pairwise_lt_range' 1 |>.sublist hsublist

/-- Selecting among documents is the formula of the selector, document by document. So a document is
selected whatever the others are and in whatever order the clauses stand, and a document on its own
is matched by the same formula. No position comes twice, and they increase where every `$or` is
below a `$not` or `$nor`. -/
theorem select_meaning (selector : Selector) (documents : List Json) :
    (∀ position, position ∈ selector.select documents ↔
      ∃ document, documents[position]? = some document ∧ selector.satisfies document = true) ∧
    (∀ document, selector.matchesDocument document = selector.satisfies document) ∧
    (∀ (others : List Json) (position other : Nat),
      documents[position]? = others[other]? →
        (position ∈ selector.select documents ↔ other ∈ selector.select others)) ∧
    (∀ reordered, selector.Reordered reordered →
      ∀ position, position ∈ reordered.select documents ↔ position ∈ selector.select documents) ∧
    (selector.select documents).Nodup ∧
    (selector.orsNegated = true → (selector.select documents).Pairwise (· < ·)) := by
  refine ⟨mem_select_iff selector documents, matchesDocument_eq selector, ?_, ?_,
    nodup_select selector documents, fun hors => select_increasing hors documents⟩
  · intro others position other hsame
    rw [mem_select_iff, mem_select_iff, hsame]
  · intro reordered h position
    simp only [mem_select_iff, h.satisfies_eq]

/-- Of two documents, a `$nor` and a condition on `n` select the second, in either order of the two
clauses and of the documents. -/
theorem select_meaning_nor :
    let kind (k : String) : Clause := .field "kind" (.equals (.string k))
    let documents : List Json :=
      [.object [("kind", .string "x")], .object [("kind", .string "y"), ("n", .int 1)]]
    let nor : Clause := .nor [.mk [kind "x"], .mk [.or [.mk [kind "z"]]]]
    let n : Clause := .field "n" (.operators [.exist true])
    1 ∈ Selector.select (.mk [nor, n]) documents ∧ 1 ∈ Selector.select (.mk [n, nor]) documents ∧
      (Selector.select (.mk [nor, n]) documents).Pairwise (· < ·) ∧
      0 ∈ Selector.select (.mk [nor, n]) documents.reverse := by
  intro kind documents nor n
  obtain ⟨hmem, -, hothers, hreordered, -, hincreasing⟩ :=
    select_meaning (.mk [nor, n]) documents
  have hselected : 1 ∈ Selector.select (.mk [nor, n]) documents :=
    (hmem 1).mpr ⟨_, rfl, by decide +kernel⟩
  exact ⟨hselected, (hreordered _ (.mk (.swap nor n [])) 1).mpr hselected, hincreasing rfl,
    (hothers documents.reverse 1 0 rfl).mp hselected⟩

end DocumentDb.Selector
