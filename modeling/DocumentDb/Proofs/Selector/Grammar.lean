import DocumentDb.Find
import DocumentDb.Database.Basic
import DocumentDb.Proofs.Selector.Equality

/-!
# The grammar of selectors

`IsSelector` says which values are selectors: objects of clauses, with conditions on the values of
fields and operands that fit their operators. It is stated on values alone, without reading them. A
selector can be read from exactly these values. From any other value nothing is found, in whatever
documents and however the request goes on, because the selector is read before the documents are
looked at.
-/

namespace DocumentDb

/-! ### The grammar -/

namespace Selector

/-- The keys of clauses that combine selectors. -/
def combinators : List String := ["$and", "$or", "$nor"]

/-- The operators on the value of a field. -/
def fieldOperators : List String :=
  ["$eq", "$ne", "$lt", "$gt", "$lte", "$gte", "$exists", "$type", "$in", "$nin", "$size", "$mod",
    "$regex", "$all", "$elemMatch", "$allMatch", "$keyMapMatch"]

/-- The operators on the elements of an array. -/
def elementOperators : List String := ["$elemMatch", "$allMatch"]

/-- The operators that do not take every operand. -/
def strictOperators : List String := "$regex" :: "$all" :: "$keyMapMatch" :: elementOperators

/-- Whether a value is an object with fields, none of them named like an operator. -/
def NamesFields (value : Json) : Prop :=
  ∃ fields, value = .object fields ∧ fields ≠ [] ∧
    ∀ field ∈ fields, field.1.toList.head? ≠ some '$'

mutual

/-- Whether a value is a selector. -/
inductive IsSelector : Json → Prop
  | clauses {fields : Fields Json} (h : ∀ field ∈ fields, IsClause field.1 field.2) :
      IsSelector (.object fields)

/-- Whether a key and its operand make a clause. -/
inductive IsClause : String → Json → Prop
  | combination {key : String} {items : List Json} (hkey : key ∈ combinators)
      (h : ∀ item ∈ items, IsSelector item) : IsClause key (.array items)
  | negation {operand : Json} (h : IsSelector operand) : IsClause "$not" operand
  | field {key : String} {operand : Json} (hkey : key ∉ "$not" :: combinators)
      (h : IsCondition operand) : IsClause key operand

/-- Whether a value is a condition. -/
inductive IsCondition : Json → Prop
  | literal {value : Json} (h : value.isObject = false) : IsCondition value
  | operators {fields : Fields Json} (hnames : ∀ field ∈ fields, field.1 ∈ fieldOperators)
      (h : ∀ field ∈ fields, IsOperand field.1 field.2) : IsCondition (.object fields)

/-- Whether a value can be the operand of an operator. -/
inductive IsOperand : String → Json → Prop
  | regex {text : String} {pattern : Pattern} (h : Pattern.parse text = .ok pattern) :
      IsOperand "$regex" (.string text)
  | all (items : List Json) : IsOperand "$all" (.array items)
  | keyMapMatch {operand : Json} (h : IsCondition operand) : IsOperand "$keyMapMatch" operand
  | fields {name : String} {operand : Json} (hname : name ∈ elementOperators)
      (hfields : NamesFields operand) (h : IsSelector operand) : IsOperand name operand
  | elements {name : String} {operand : Json} (hname : name ∈ elementOperators)
      (hfields : ¬ NamesFields operand) (h : IsCondition operand) : IsOperand name operand
  | any {name : String} (hname : name ∉ strictOperators) (operand : Json) : IsOperand name operand

end

/-! ### Inversions -/

variable {key name : String} {operand value : Json}

lemma isSelector_iff :
    IsSelector value ↔
      ∃ fields, value = .object fields ∧ ∀ field ∈ fields, IsClause field.1 field.2 := by
  constructor
  · rintro ⟨h⟩
    exact ⟨_, rfl, h⟩
  · rintro ⟨fields, rfl, h⟩
    exact .clauses h

lemma isClause_iff :
    IsClause key operand ↔
      (key ∈ combinators ∧ ∃ items, operand = .array items ∧ ∀ item ∈ items, IsSelector item) ∨
        (key = "$not" ∧ IsSelector operand) ∨
        (key ∉ "$not" :: combinators ∧ IsCondition operand) := by
  constructor
  · intro h
    cases h with
    | combination hkey h => exact .inl ⟨hkey, _, rfl, h⟩
    | negation h => exact .inr (.inl ⟨rfl, h⟩)
    | field hkey h => exact .inr (.inr ⟨hkey, h⟩)
  · rintro (⟨hkey, items, rfl, h⟩ | ⟨rfl, h⟩ | ⟨hkey, h⟩)
    · exact .combination hkey h
    · exact .negation h
    · exact .field hkey h

lemma isCondition_iff :
    IsCondition value ↔
      ∀ fields, value = .object fields →
        ∀ field ∈ fields, field.1 ∈ fieldOperators ∧ IsOperand field.1 field.2 := by
  constructor
  · rintro (h | ⟨hnames, h⟩) fields heq
    · rw [heq] at h
      cases h
    · cases heq
      exact fun field hfield => ⟨hnames field hfield, h field hfield⟩
  · intro h
    cases value with
    | object fields =>
      have hfields := h fields rfl
      exact .operators (fun field hfield => (hfields field hfield).1)
        fun field hfield => (hfields field hfield).2
    | _ => exact .literal rfl

lemma isOperand_iff :
    IsOperand name operand ↔
      (name = "$regex" ∧ ∃ text pattern, operand = .string text ∧
        Pattern.parse text = .ok pattern) ∨
      (name = "$all" ∧ ∃ items, operand = .array items) ∨
      (name = "$keyMapMatch" ∧ IsCondition operand) ∨
      (name ∈ elementOperators ∧ (NamesFields operand → IsSelector operand) ∧
        (¬ NamesFields operand → IsCondition operand)) ∨
      name ∉ strictOperators := by
  constructor
  · intro h
    cases h with
    | regex h => exact .inl ⟨rfl, _, _, rfl, h⟩
    | all items => exact .inr (.inl ⟨rfl, items, rfl⟩)
    | keyMapMatch h => exact .inr (.inr (.inl ⟨rfl, h⟩))
    | fields hname hfields h =>
      exact .inr (.inr (.inr (.inl ⟨hname, fun _ => h, fun hnot => absurd hfields hnot⟩)))
    | elements hname hfields h =>
      exact .inr (.inr (.inr (.inl ⟨hname, fun hyes => absurd hyes hfields, fun _ => h⟩)))
    | any hname => exact .inr (.inr (.inr (.inr hname)))
  · rintro (⟨rfl, text, pattern, rfl, h⟩ | ⟨rfl, items, rfl⟩ | ⟨rfl, h⟩ | ⟨hname, hyes, hno⟩ |
      hname)
    · exact .regex h
    · exact .all items
    · exact .keyMapMatch h
    · by_cases hfields : NamesFields operand
      · exact .fields hname hfields (hyes hfields)
      · exact .elements hname hfields (hno hfields)
    · exact .any hname operand

/-! ### Readings that succeed -/

section Readings

variable {α β : Type}

lemma isOk_iff {outcome : SelectorRead α} : outcome.isOk = true ↔ ∃ a, outcome = .ok a := by
  cases outcome <;> simp [Except.isOk, Except.toBool]

@[simp] lemma isOk_ok (a : α) : (.ok a : SelectorRead α).isOk = true := rfl

@[simp] lemma isOk_error (error : SelectorError) : (.error error : SelectorRead α).isOk = false :=
  rfl

@[simp] lemma isOk_map {outcome : SelectorRead α} {f : α → β} :
    (outcome.map f).isOk = outcome.isOk := by
  cases outcome <;> rfl

/-- A list is read where all of its items are. -/
lemma isOk_mapM_iff {read : α → SelectorRead β} {items : List α} :
    (items.mapM read).isOk = true ↔ ∀ item ∈ items, (read item).isOk = true := by
  rcases mapM_cases read items with ⟨read, hread, hpaired⟩ | ⟨error, herror, item, hitem, hfault⟩
  · refine iff_of_true (hread ▸ rfl) fun item hitem => ?_
    obtain ⟨_, -, hitem⟩ := hpaired.1 item hitem
    rw [hitem]
    rfl
  · refine iff_of_false (by simp [herror]) fun h => ?_
    have hitem := h item hitem
    rw [hfault] at hitem
    cases hitem

end Readings

/-! ### What can be read -/

lemma startsWith_dollar_iff {s : String} :
    Text.startsWith s "$" = true ↔ s.toList.head? = some '$' := by
  have hdollar : "$".toList = ['$'] := rfl
  rw [Text.startsWith, hdollar]
  cases s.toList with
  | nil => simp
  | cons c cs =>
    simp only [List.isPrefixOf_cons_cons, List.isPrefixOf_nil_left, Bool.and_true, beq_iff_eq,
      List.head?_cons, Option.some.injEq]
    exact eq_comm

lemma any_describesFields_iff :
    operand.fields?.any describesFields = true ↔ NamesFields operand := by
  cases operand with
  | object fields =>
    simp [Json.fields?, describesFields, NamesFields, startsWith_dollar_iff]
  | _ => simp [Json.fields?, NamesFields]

/-- What can be read from a value is what the grammar calls it. -/
structure ReadByGrammar (value : Json) : Prop where
  selector : (ofJson value).isOk = true ↔ IsSelector value
  clause (key : String) : (clauseOf key value).isOk = true ↔ IsClause key value
  condition : (conditionOf value).isOk = true ↔ IsCondition value
  operator (name : String) : (operatorOf name value).isOk = true ↔
    name ∈ fieldOperators ∧ IsOperand name value

namespace ReadByGrammar

lemma clause_of (hselector : (ofJson operand).isOk = true ↔ IsSelector operand)
    (hitems : ∀ items, operand = .array items → ∀ item ∈ items,
      ((ofJson item).isOk = true ↔ IsSelector item))
    (hcondition : (conditionOf operand).isOk = true ↔ IsCondition operand) (key : String) :
    (clauseOf key operand).isOk = true ↔ IsClause key operand := by
  have hcombined (key : String) : (combined key operand).isOk = true ↔
      ∃ items, operand = .array items ∧ ∀ item ∈ items, IsSelector item := by
    cases operand with
    | array items =>
      rw [combined, listOf_eq_mapM, isOk_mapM_iff]
      simp [forall₂_congr (hitems items rfl)]
    | _ => simp [combined]
  have hnegated : (negated operand).isOk = true ↔ IsSelector operand := by
    cases operand with
    | array items => simp [negated, isSelector_iff]
    | _ => exact hselector
  rw [clauseOf_eq, isClause_iff]
  split
  · simp [hcombined, combinators]
  · simp [hcombined, combinators]
  · simp [hcombined, combinators]
  · simp [hnegated, combinators]
  · simp_all [combinators]

lemma matcher_of (hselector : (ofJson operand).isOk = true ↔ IsSelector operand)
    (hcondition : (conditionOf operand).isOk = true ↔ IsCondition operand) :
    (matcherOf operand).isOk = true ↔
      (NamesFields operand → IsSelector operand) ∧
        (¬ NamesFields operand → IsCondition operand) := by
  rw [matcherOf_eq]
  split
  · rename_i hfields
    rw [any_describesFields_iff] at hfields
    simp [hfields, hselector]
  · rename_i hfields
    rw [any_describesFields_iff] at hfields
    simp [hfields, hcondition]

lemma pattern_of (operand : Json) :
    (readPattern operand).isOk = true ↔
      ∃ text pattern, operand = .string text ∧ Pattern.parse text = .ok pattern := by
  cases operand with
  | string text =>
    rw [readPattern]
    cases hparse : Pattern.parse text with
    | ok pattern => exact iff_of_true rfl ⟨text, pattern, rfl, hparse⟩
    | error cause =>
      refine iff_of_false Bool.false_ne_true ?_
      rintro ⟨_, pattern, ⟨⟩, hpattern⟩
      cases hparse.symm.trans hpattern
  | _ => simp [readPattern]

lemma plain_of {name : String} (hname : name ∉ "$keyMapMatch" :: elementOperators)
    (operand : Json) :
    (readPlain name operand).isOk = true ↔ name ∈ fieldOperators ∧ IsOperand name operand := by
  rw [isOperand_iff]
  unfold readPlain
  split
  case h_13 => simp [pattern_of, fieldOperators, strictOperators, elementOperators]
  case h_14 => cases operand <;> simp [fieldOperators, strictOperators, elementOperators]
  all_goals simp_all [fieldOperators, strictOperators, elementOperators]

lemma operator_of (hselector : (ofJson operand).isOk = true ↔ IsSelector operand)
    (hcondition : (conditionOf operand).isOk = true ↔ IsCondition operand) (name : String) :
    (operatorOf name operand).isOk = true ↔ name ∈ fieldOperators ∧ IsOperand name operand := by
  have hmatcher := matcher_of hselector hcondition
  unfold operatorOf
  split
  · simp [hmatcher, isOperand_iff, fieldOperators, elementOperators, strictOperators]
  · simp [hmatcher, isOperand_iff, fieldOperators, elementOperators, strictOperators]
  · simp [hcondition, isOperand_iff, fieldOperators, elementOperators, strictOperators]
  · exact plain_of (by simp_all [elementOperators]) operand

/-- What stands for a selector, for a condition and in a list decides the rest. -/
lemma of_operand (hselector : (ofJson operand).isOk = true ↔ IsSelector operand)
    (hitems : ∀ items, operand = .array items → ∀ item ∈ items,
      ((ofJson item).isOk = true ↔ IsSelector item))
    (hcondition : (conditionOf operand).isOk = true ↔ IsCondition operand) :
    ReadByGrammar operand where
  selector := hselector
  clause := clause_of hselector hitems hcondition
  condition := hcondition
  operator := operator_of hselector hcondition

end ReadByGrammar

lemma readByGrammar (value : Json) : ReadByGrammar value := by
  -- the items of an array stand in lists of selectors, the fields of an object are clauses or
  -- operators: their own operands are read by the grammar by induction
  induction value using Json.induction with
  | null | bool | number | string =>
    refine .of_operand ?_ (fun _ heq => by cases heq) ?_
    · simp [ofJson, isSelector_iff]
    · simp [conditionOf, isCondition_iff]
  | array items ih =>
    refine .of_operand ?_ (fun _ heq item hitem => ?_) ?_
    · simp [ofJson, isSelector_iff]
    · cases heq
      exact (ih item hitem).selector
    · simp [conditionOf, isCondition_iff]
  | object fields ih =>
    refine .of_operand ?_ (fun _ heq => by cases heq) ?_
    · rw [ofJson, isOk_map, clausesOf_eq_mapM, isOk_mapM_iff, isSelector_iff]
      simp only [Json.object.injEq, exists_eq_left']
      exact forall₂_congr fun field hfield => (ih field hfield).clause field.1
    · rw [conditionOf, isOk_map, operatorsOf_eq_mapM, isOk_mapM_iff, isCondition_iff]
      simp only [Json.object.injEq, forall_eq']
      exact forall₂_congr fun field hfield => (ih field hfield).operator field.1

/-- A selector can be read from a value if and only if the value is a selector by the grammar. From
any other value, finding documents fails with a bad selector, whatever documents there are, also
where there are none, and whatever else is asked for. -/
theorem ofJson_ok_iff (value : Json) :
    ((∃ selector, ofJson value = .ok selector) ↔ IsSelector value) ∧
      (¬ IsSelector value → ∃ cause, ofJson value = .error cause ∧
        (Error.selector cause).kind = .badSelector ∧
        ∀ request : FindRequest, request.selector = value →
          (∀ documents, find documents request = .error (.selector cause)) ∧
            ∀ db : Database, db.find request = .error (.selector cause)) := by
  have hread : (∃ selector, ofJson value = .ok selector) ↔ IsSelector value :=
    isOk_iff.symm.trans (readByGrammar value).selector
  refine ⟨hread, fun hvalue => ?_⟩
  cases hcause : ofJson value with
  | ok selector => exact absurd (hread.mp ⟨selector, hcause⟩) hvalue
  | error cause =>
    refine ⟨cause, rfl, rfl, ?_⟩
    rintro request rfl
    have hfind (documents : List Json) : find documents request = .error (.selector cause) := by
      rw [find, hcause]
    exact ⟨hfind, fun db => hfind _⟩

end Selector

end DocumentDb
