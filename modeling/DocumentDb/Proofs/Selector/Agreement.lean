import DocumentDb.Proofs.Json.Equality
import DocumentDb.Proofs.Selector.Selection
import DocumentDb.Selector.Parser

/-!
# Selectors that agree

Two selectors agree when they give the same verdict on any two equal documents, and so do two parts
of selectors. Operators with equal operands agree. Whatever is put together from parts that agree
does so too, also where the parts of the one come in another order, as long as each of them has its
like in the other. Only `$regex` is left out: it looks at how a number is spelled.
-/

namespace DocumentDb.Selector

open Json (Same)

/-! ### Selectors without patterns -/

mutual

/-- Whether a selector has no `$regex`. -/
def regexFree : Selector → Bool
  | .mk clauses => regexFreeClauses clauses

@[inherit_doc regexFree]
def regexFreeClauses : List Clause → Bool
  | [] => true
  | clause :: clauses => regexFreeClause clause && regexFreeClauses clauses

/-- Whether a clause has no `$regex`. -/
def regexFreeClause : Clause → Bool
  | .and selectors | .or selectors | .nor selectors => regexFreeAll selectors
  | .not selector => regexFree selector
  | .field _ condition => regexFreeCondition condition

/-- Whether none of the selectors has a `$regex`. -/
def regexFreeAll : List Selector → Bool
  | [] => true
  | selector :: selectors => regexFree selector && regexFreeAll selectors

/-- Whether a condition has no `$regex`. -/
def regexFreeCondition : Condition → Bool
  | .equals _ | .null | .elements _ => true
  | .operators operators => regexFreeOperators operators

@[inherit_doc regexFreeCondition]
def regexFreeOperators : List Operator → Bool
  | [] => true
  | operator :: operators => regexFreeOperator operator && regexFreeOperators operators

/-- Whether an operator neither is a `$regex` nor holds one. -/
def regexFreeOperator : Operator → Bool
  | .regex _ => false
  | .elemMatch matcher | .allMatch matcher => regexFreeMatcher matcher
  | .keyMapMatch condition => regexFreeCondition condition
  | _ => true

/-- Whether the elements of an array are matched without a `$regex`. -/
def regexFreeMatcher : ElementMatcher → Bool
  | .value condition => regexFreeCondition condition
  | .fields selector => regexFree selector

end

lemma regexFreeClauses_iff {clauses : List Clause} :
    regexFreeClauses clauses = true ↔ ∀ clause ∈ clauses, regexFreeClause clause = true := by
  induction clauses with
  | nil => simp [regexFreeClauses]
  | cons clause clauses ih => simp [regexFreeClauses, ih]

lemma regexFreeAll_iff {selectors : List Selector} :
    regexFreeAll selectors = true ↔ ∀ selector ∈ selectors, selector.regexFree = true := by
  induction selectors with
  | nil => simp [regexFreeAll]
  | cons selector selectors ih => simp [regexFreeAll, ih]

lemma regexFreeOperators_iff {operators : List Operator} :
    regexFreeOperators operators = true ↔
      ∀ operator ∈ operators, regexFreeOperator operator = true := by
  induction operators with
  | nil => simp [regexFreeOperators]
  | cons operator operators ih => simp [regexFreeOperators, ih]

/-! ### Verdicts on the same values -/

/-- Two parts of selectors give the same verdict on values that are the same, unless there is a
`$regex` in the first. -/
def Agree {α β : Type} (free : α → Bool) (holds : α → β → Bool) (same : β → β → Prop)
    (first second : α) : Prop :=
  free first = true → ∀ ⦃v w : β⦄, same v w → holds first v = holds second w

@[inherit_doc Agree]
abbrev SelectorsAgree : Selector → Selector → Prop := Agree regexFree satisfies Same

@[inherit_doc Agree]
abbrev ClausesAgree : Clause → Clause → Prop := Agree regexFreeClause satisfiesClause Same

@[inherit_doc Agree]
abbrev ConditionsAgree : Condition → Condition → Prop :=
  Agree regexFreeCondition conditionHolds (Option.Rel Same)

@[inherit_doc Agree]
abbrev OperatorsAgree : Operator → Operator → Prop :=
  Agree regexFreeOperator operatorHolds (Option.Rel Same)

@[inherit_doc Agree]
abbrev MatchersAgree : ElementMatcher → ElementMatcher → Prop :=
  Agree regexFreeMatcher matcherHolds Same

lemma satisfiesClauses_eq_all (clauses : List Clause) (document : Json) :
    satisfiesClauses clauses document = clauses.all (satisfiesClause · document) := by
  induction clauses with
  | nil => rfl
  | cons clause clauses ih => rw [satisfiesClauses, ih, List.all_cons]

lemma satisfiesAll_eq_all (selectors : List Selector) (document : Json) :
    satisfiesAll selectors document = selectors.all (satisfies · document) := by
  induction selectors with
  | nil => rfl
  | cons selector selectors ih => rw [satisfiesAll, ih, List.all_cons]

lemma satisfiesAny_eq_any (selectors : List Selector) (document : Json) :
    satisfiesAny selectors document = selectors.any (satisfies · document) := by
  induction selectors with
  | nil => rfl
  | cons selector selectors ih => rw [satisfiesAny, ih, List.any_cons]

lemma operatorsHold_eq_all (operators : List Operator) (value : Option Json) :
    operatorsHold operators value = operators.all (operatorHolds · value) := by
  induction operators with
  | nil => rfl
  | cons operator operators ih => rw [operatorsHold, ih, List.all_cons]

lemma matcherHolds_fields (selector : Selector) (element : Json) :
    matcherHolds (.fields selector) element = selector.satisfies element :=
  matchesDocument_eq selector element

/-! ### Agreement of selectors and conditions -/

namespace Agree

lemma mk {clauses others : List Clause} (h : Paired ClausesAgree clauses others) :
    SelectorsAgree (.mk clauses) (.mk others) := by
  intro hfree d e hd
  rw [regexFree, regexFreeClauses_iff] at hfree
  rw [satisfies, satisfies, satisfiesClauses_eq_all, satisfiesClauses_eq_all]
  exact h.all_eq fun clause hclause _ _ hagree => hagree (hfree clause hclause) hd

lemma and {selectors others : List Selector} (h : Paired SelectorsAgree selectors others) :
    ClausesAgree (.and selectors) (.and others) := by
  intro hfree d e hd
  rw [regexFreeClause, regexFreeAll_iff] at hfree
  rw [satisfiesClause, satisfiesClause, satisfiesAll_eq_all, satisfiesAll_eq_all]
  exact h.all_eq fun selector hselector _ _ hagree => hagree (hfree selector hselector) hd

/-- Of selectors that agree in pairs, the first ones have one that a document satisfies where the
second ones have. -/
lemma satisfiesAny_eq {selectors others : List Selector}
    (h : Paired SelectorsAgree selectors others) (hfree : regexFreeAll selectors = true)
    {d e : Json} (hd : Same d e) : satisfiesAny selectors d = satisfiesAny others e := by
  rw [regexFreeAll_iff] at hfree
  rw [satisfiesAny_eq_any, satisfiesAny_eq_any]
  exact h.any_eq fun selector hselector _ _ hagree => hagree (hfree selector hselector) hd

lemma or {selectors others : List Selector} (h : Paired SelectorsAgree selectors others) :
    ClausesAgree (.or selectors) (.or others) := by
  intro hfree d e hd
  rw [satisfiesClause, satisfiesClause]
  exact satisfiesAny_eq h hfree hd

lemma nor {selectors others : List Selector} (h : Paired SelectorsAgree selectors others) :
    ClausesAgree (.nor selectors) (.nor others) := by
  intro hfree d e hd
  rw [satisfiesClause, satisfiesClause, satisfiesAny_eq h hfree hd]

lemma not {selector other : Selector} (h : SelectorsAgree selector other) :
    ClausesAgree (.not selector) (.not other) := by
  intro hfree d e hd
  rw [satisfiesClause, satisfiesClause, h hfree hd]

lemma field {condition other : Condition} (path : String) (h : ConditionsAgree condition other) :
    ClausesAgree (.field path condition) (.field path other) := by
  intro hfree d e hd
  rw [satisfiesClause, satisfiesClause]
  exact h hfree (hd.get?_rel path)

lemma equals {a b : Json} (h : Same a b) : ConditionsAgree (.equals a) (.equals b) := by
  intro _ v w hv
  cases hv with
  | none => rfl
  | some hv => exact hv.deepEqual_eq h

lemma null : ConditionsAgree .null .null := by
  intro _ v w hv
  cases hv with
  | none => rfl
  | some hv => cases hv.shape <;> rfl

lemma elements {as bs : List Json} (h : Same (.array as) (.array bs)) :
    ConditionsAgree (.elements as) (.elements bs) := by
  intro _ v w hv
  cases hv with
  | none => rfl
  | some hv =>
    cases hv.shape with
    | array => exact hv.deepEqual_eq h
    | _ => rfl

lemma operators {operators others : List Operator} (h : Paired OperatorsAgree operators others) :
    ConditionsAgree (.operators operators) (.operators others) := by
  intro hfree v w hv
  rw [regexFreeCondition, regexFreeOperators_iff] at hfree
  rw [conditionHolds, conditionHolds, operatorsHold_eq_all, operatorsHold_eq_all]
  exact h.all_eq fun operator hoperator _ _ hagree => hagree (hfree operator hoperator) hv

lemma value {condition other : Condition} (h : ConditionsAgree condition other) :
    MatchersAgree (.value condition) (.value other) := by
  intro hfree a b hab
  rw [matcherHolds, matcherHolds]
  exact h hfree (.some hab)

lemma fields {selector other : Selector} (h : SelectorsAgree selector other) :
    MatchersAgree (.fields selector) (.fields other) := by
  intro hfree a b hab
  rw [matcherHolds_fields, matcherHolds_fields]
  exact h hfree hab

end Agree

/-! ### Agreement of operators -/

lemma hasItem_eq {items others : List Json} {a b : Json} (hitems : List.Forall₂ Same items others)
    (h : Same a b) : hasItem items a = hasItem others b :=
  (Paired.of_forall₂ hitems).any_eq fun _ _ _ _ hitem => hitem.deepEqual_eq h

lemma ordered_eq {v w : Option Json} {a b : Json} (accept : Ordering → Bool)
    (hv : Option.Rel Same v w) (h : Same a b) : ordered accept v a = ordered accept w b := by
  cases hv with
  | none => rfl
  | some hv => rw [ordered, ordered, Option.bind_some, Option.bind_some, hv.compare?_eq h]

lemma intersects?_eq {v w : Option Json} {a b : Json} (hv : Option.Rel Same v w)
    (h : Same a b) : intersects? v a = intersects? w b := by
  cases hv with
  | none => rfl
  | some hv =>
    cases hv.shape with
    | array hitems =>
      cases h.shape with
      | array hwanted =>
        rw [intersects?, intersects?, (Paired.of_forall₂ hwanted).any_eq]
        intro _ _ _ _ hitem
        exact hasItem_eq hitems hitem
      | _ => rfl
    | _ => rfl

lemma hasSize_eq {v w : Option Json} {a b : Json} (hv : Option.Rel Same v w) (h : Same a b) :
    hasSize v a = hasSize w b := by
  cases hv with
  | none => rfl
  | some hv =>
    cases hv.shape with
    | array hitems =>
      cases h.shape with
      | number hunits =>
        rw [hasSize, hasSize, Double.numericEq, Double.numericEq, hitems.length_eq, hunits]
      | _ => rfl
    | _ => rfl

lemma any_hasRemainder_eq {m n : Double} {a b : Json} (hunits : m.units = n.units)
    (h : Same a b) :
    ((modOperands? a).any fun operands => m.hasRemainder operands.1 operands.2) =
      (modOperands? b).any fun operands => n.hasRemainder operands.1 operands.2 := by
  cases h.shape with
  | array hitems =>
    cases hitems with
    | nil => rfl
    | cons hdivisor hitems =>
      cases hitems with
      | nil => cases hdivisor.shape <;> rfl
      | cons hrest _ =>
        cases hdivisor.shape with
        | number hd =>
          cases hrest.shape with
          | number hr =>
            simp only [modOperands?, Option.any_some, Double.hasRemainder, hunits, hd, hr]
          | _ => rfl
        | _ => rfl
  | _ => rfl

lemma leavesRest_eq {v w : Option Json} {a b : Json} (hv : Option.Rel Same v w) (h : Same a b) :
    leavesRest (modOperands? a) v = leavesRest (modOperands? b) w := by
  cases hv with
  | none => rfl
  | some hv =>
    cases hv.shape with
    | number hunits => exact any_hasRemainder_eq hunits h
    | _ => rfl

namespace Agree

section Operands

variable {a b : Json}

lemma eq (h : Same a b) : OperatorsAgree (.eq a) (.eq b) := by
  intro _ v w hv
  exact Same.optionalEqual_eq hv (.some h)

lemma ne (h : Same a b) : OperatorsAgree (.ne a) (.ne b) := by
  intro _ v w hv
  rw [operatorHolds, operatorHolds, Same.optionalEqual_eq hv (.some h)]

lemma lt (h : Same a b) : OperatorsAgree (.lt a) (.lt b) := by
  intro _ v w hv
  exact ordered_eq _ hv h

lemma gt (h : Same a b) : OperatorsAgree (.gt a) (.gt b) := by
  intro _ v w hv
  exact ordered_eq _ hv h

lemma lte (h : Same a b) : OperatorsAgree (.lte a) (.lte b) := by
  intro _ v w hv
  exact ordered_eq _ hv h

lemma gte (h : Same a b) : OperatorsAgree (.gte a) (.gte b) := by
  intro _ v w hv
  exact ordered_eq _ hv h

lemma exist (expected : Bool) : OperatorsAgree (.exist expected) (.exist expected) := by
  intro _ v w hv
  cases hv <;> rfl

lemma type (h : Same a b) : OperatorsAgree (.type a) (.type b) := by
  intro _ v w hv
  rw [operatorHolds, operatorHolds, h.string?_eq, Same.typeName_eq hv]

lemma isIn (h : Same a b) : OperatorsAgree (.isIn a) (.isIn b) := by
  intro _ v w hv
  rw [operatorHolds, operatorHolds, intersects?_eq hv h]

lemma notIn (h : Same a b) : OperatorsAgree (.notIn a) (.notIn b) := by
  intro _ v w hv
  rw [operatorHolds, operatorHolds, intersects?_eq hv h]

lemma size (h : Same a b) : OperatorsAgree (.size a) (.size b) := by
  intro _ v w hv
  exact hasSize_eq hv h

lemma mod (h : Same a b) : OperatorsAgree (.mod (modOperands? a)) (.mod (modOperands? b)) := by
  intro _ v w hv
  exact leavesRest_eq hv h

/-- A `$regex` is left out: the text of a number shows how it is spelled. -/
lemma regex (pattern other : Pattern) : OperatorsAgree (.regex pattern) (.regex other) := by
  intro hfree
  cases hfree

lemma all {required others : List Json} (h : List.Forall₂ Same required others) :
    OperatorsAgree (.all required) (.all others) := by
  intro _ v w hv
  cases hv with
  | none => rfl
  | some hv =>
    cases hv.shape with
    | array hitems =>
      exact (Paired.of_forall₂ h).all_eq fun _ _ _ _ hwanted => hasItem_eq hitems hwanted
    | _ => rfl

end Operands

lemma elemMatch {matcher other : ElementMatcher} (h : MatchersAgree matcher other) :
    OperatorsAgree (.elemMatch matcher) (.elemMatch other) := by
  intro hfree v w hv
  cases hv with
  | none => rfl
  | some hv =>
    cases hv.shape with
    | array hitems =>
      exact (Paired.of_forall₂ hitems).any_eq fun _ _ _ _ hitem => h hfree hitem
    | _ => rfl

lemma allMatch {matcher other : ElementMatcher} (h : MatchersAgree matcher other) :
    OperatorsAgree (.allMatch matcher) (.allMatch other) := by
  intro hfree v w hv
  cases hv with
  | none => rfl
  | some hv =>
    cases hv.shape with
    | array hitems =>
      exact (Paired.of_forall₂ hitems).all_eq fun _ _ _ _ hitem => h hfree hitem
    | _ => rfl

lemma keyMapMatch {condition other : Condition} (h : ConditionsAgree condition other) :
    OperatorsAgree (.keyMapMatch condition) (.keyMapMatch other) := by
  intro hfree v w hv
  cases hv with
  | none => rfl
  | some hv =>
    cases hv.shape with
    | object =>
      refine hv.paired.any_eq fun field _ other _ hfield => ?_
      rw [hfield.1]
      exact h hfree (.some ⟨by simp [Json.deepEqual], rfl, rfl⟩)
    | _ => rfl

end Agree

end DocumentDb.Selector
