import DocumentDb.Proofs.Selector.Agreement

/-!
# Equal selectors match equal documents

A selector is read from a value, and a value can be written with its fields in another order and its
numbers spelled another way. The clauses and operators then come in another order and hold operands
that are equal but not identical. What is read is still as good: a selector can be read from both
values or from neither, and without `$regex` the two match equal documents alike.
-/

namespace DocumentDb.Selector

open Json (Same)

/-! ### Reading with like outcomes -/

/-- Both readings fail, or both succeed with related results. -/
inductive Alike {α β : Type} (R : α → β → Prop) : SelectorRead α → SelectorRead β → Prop
  | ok {a : α} {b : β} (h : R a b) : Alike R (.ok a) (.ok b)
  | error (e e' : SelectorError) : Alike R (.error e) (.error e')

section Alike

variable {α β γ δ : Type} {R : α → β → Prop} {S : γ → δ → Prop}

lemma Alike.map {x : SelectorRead α} {y : SelectorRead β} {f : α → γ} {g : β → δ}
    (h : Alike R x y) (hfg : ∀ {a b}, R a b → S (f a) (g b)) :
    Alike S (x.map f) (y.map g) := by
  cases h with
  | ok h => exact .ok (hfg h)
  | error e e' => exact .error e e'

lemma Alike.isOk_eq {x : SelectorRead α} {y : SelectorRead β} (h : Alike R x y) :
    x.isOk = y.isOk := by
  cases h <;> rfl

/-- A list is read item by item, or the outcome is the fault of an item. -/
lemma mapM_cases (read : α → SelectorRead γ) (xs : List α) :
    (∃ us, xs.mapM read = .ok us ∧ Paired (fun x u => read x = .ok u) xs us) ∨
      ∃ e, xs.mapM read = .error e ∧ ∃ x ∈ xs, read x = .error e := by
  induction xs with
  | nil => exact .inl ⟨[], rfl, .nil⟩
  | cons x xs ih =>
    rw [List.mapM_cons]
    cases hx : read x with
    | error e => exact .inr ⟨e, rfl, x, List.mem_cons_self, hx⟩
    | ok u =>
      rcases ih with ⟨us, hus, hpaired⟩ | ⟨e, he, y, hy, hfault⟩
      · exact .inl ⟨u :: us, by rw [hus]; rfl, hpaired.cons hx⟩
      · exact .inr ⟨e, by rw [he]; rfl, y, List.mem_cons_of_mem x hy, hfault⟩

/-- Items that are read with like outcomes, in whatever order, make lists that are. -/
lemma Alike.mapM {read : α → SelectorRead γ} {read' : β → SelectorRead δ} {xs : List α}
    {ys : List β} (h : Paired (fun x y => Alike S (read x) (read' y)) xs ys) :
    Alike (Paired S) (xs.mapM read) (ys.mapM read') := by
  rcases mapM_cases read xs with ⟨us, hus, hxs⟩ | ⟨e, he, x, hx, hfault⟩
  · rcases mapM_cases read' ys with ⟨vs, hvs, hys⟩ | ⟨e, he, y, hy, hfault⟩
    · rw [hus, hvs]
      -- from the results `us` back to `xs`, over to `ys` and on to the results `vs`
      have hread : Paired (fun u y => ∃ v, read' y = .ok v ∧ S u v) us ys := by
        refine hxs.flip.comp h fun u _ x _ y _ hu halike => ?_
        rw [hu] at halike
        generalize hy : read' y = outcome at halike
        cases halike with
        | ok h => exact ⟨_, rfl, h⟩
      refine .ok (hread.comp hys ?_)
      rintro u _ y _ v _ ⟨v', hv', h⟩ hv
      rw [hv] at hv'
      cases hv'
      exact h
    · obtain ⟨x, hx, halike⟩ := h.2 y hy
      obtain ⟨u, -, hu⟩ := hxs.1 x hx
      rw [hu, hfault] at halike
      cases halike
  · rcases mapM_cases read' ys with ⟨vs, hvs, hys⟩ | ⟨e', he', -⟩
    · obtain ⟨y, hy, halike⟩ := h.1 x hx
      obtain ⟨v, -, hv⟩ := hys.1 y hy
      rw [hv, hfault] at halike
      cases halike
    · rw [he, he']
      exact .error e e'

end Alike

/-! ### Reading as an equation -/

lemma listOf_eq_mapM (items : List Json) : listOf items = items.mapM ofJson := by
  induction items with
  | nil => rw [listOf]; rfl
  | cons item items ih => rw [listOf, ih, List.mapM_cons]

lemma clausesOf_eq_mapM (fields : List (String × Json)) :
    clausesOf fields = fields.mapM fun field => clauseOf field.1 field.2 := by
  induction fields with
  | nil => rw [clausesOf]; rfl
  | cons field fields ih => rw [clausesOf, ih, List.mapM_cons]

lemma operatorsOf_eq_mapM (fields : List (String × Json)) :
    operatorsOf fields = fields.mapM fun field => operatorOf field.1 field.2 := by
  induction fields with
  | nil => rw [operatorsOf]; rfl
  | cons field fields ih => rw [operatorsOf, ih, List.mapM_cons]

/-- The selectors in the operand of `$and`, `$or` or `$nor`. -/
def combined (key : String) : Json → SelectorRead (List Selector)
  | .array items => listOf items
  | _ => .error (.invalidOperand key)

/-- The selector in the operand of `$not`. -/
def negated : Json → SelectorRead Selector
  | .array _ => .error (.invalidOperand "$not")
  | operand => ofJson operand

lemma map_map {α β γ : Type} (x : SelectorRead α) (f : α → β) (g : β → γ) :
    (x.map f).map g = x.map fun a => g (f a) := by
  cases x <;> rfl

/-- Its key alone decides how the operand of a clause is read. -/
lemma clauseOf_eq (key : String) (operand : Json) :
    clauseOf key operand =
      match key with
      | "$and" => (combined key operand).map .and
      | "$or" => (combined key operand).map .or
      | "$nor" => (combined key operand).map .nor
      | "$not" => (negated operand).map .not
      | path => (conditionOf operand).map (.field path) := by
  split
  · cases operand <;> simp [clauseOf, combined, Except.map]
  · cases operand <;> simp [clauseOf, combined, Except.map]
  · cases operand <;> simp [clauseOf, combined, Except.map]
  · cases operand with
    | object fields => simp only [clauseOf, negated, ofJson, map_map]
    | _ => simp [clauseOf, negated, ofJson, Except.map]
  · cases operand with
    | object fields => simp only [clauseOf, conditionOf, map_map]
    | _ => simp [clauseOf, conditionOf, Except.map]

/-- The elements of an array are matched by a selector or by a condition. -/
lemma matcherOf_eq (operand : Json) :
    matcherOf operand =
      if operand.fields?.any describesFields then (ofJson operand).map .fields
      else (conditionOf operand).map .value := by
  cases operand with
  | object fields =>
    rw [matcherOf, ofJson, conditionOf, map_map, map_map, Json.fields?, Option.any_some]
  | _ =>
    simp only [matcherOf, conditionOf, Json.fields?, Option.any_none]
    rfl

lemma describesFields_eq {as bs : List (String × Json)}
    (h : Same (.object as) (.object bs)) : describesFields as = describesFields bs := by
  have hnames : (as.any fun field => Text.startsWith field.1 "$") =
      bs.any fun field => Text.startsWith field.1 "$" := by
    refine h.paired.any_eq fun a _ b _ hab => ?_
    rw [hab.1]
  rw [describesFields, describesFields, hnames, h.paired.isEmpty_eq]

/-! ### Reading from the same values -/

lemma readPattern_alike {a b : Json} (h : Same a b) :
    Alike (fun _ _ => True) (readPattern a) (readPattern b) := by
  cases h.shape with
  | string text =>
    cases hread : readPattern (.string text) with
    | ok pattern => exact .ok trivial
    | error e => exact .error e e
  | _ => exact .error _ _

lemma readPlain_alike (name : String) {a b : Json} (h : Same a b) :
    Alike OperatorsAgree (readPlain name a) (readPlain name b) := by
  unfold readPlain
  split
  · exact .ok (.eq h)
  · exact .ok (.ne h)
  · exact .ok (.lt h)
  · exact .ok (.gt h)
  · exact .ok (.lte h)
  · exact .ok (.gte h)
  · rw [h.truthy_eq]
    exact .ok (.exist _)
  · exact .ok (.type h)
  · exact .ok (.isIn h)
  · exact .ok (.notIn h)
  · exact .ok (.size h)
  · exact .ok (.mod h)
  · exact (readPattern_alike h).map fun _ => .regex _ _
  · cases h.shape with
    | array hitems => exact .ok (.all hitems)
    | _ => exact .error _ _
  · exact .error _ _

/-- Whatever is to be read from the two values, both are read with like outcomes. -/
structure ReadAlike (a b : Json) : Prop where
  selector : Alike SelectorsAgree (ofJson a) (ofJson b)
  clause (key : String) : Alike ClausesAgree (clauseOf key a) (clauseOf key b)
  condition : Alike ConditionsAgree (conditionOf a) (conditionOf b)
  operator (name : String) : Alike OperatorsAgree (operatorOf name a) (operatorOf name b)
  matcher : Alike MatchersAgree (matcherOf a) (matcherOf b)

/-- Only an object is a selector. -/
lemma notObject_alike {a b : Json} (ha : a.fields? = none) (hb : b.fields? = none) :
    Alike SelectorsAgree (ofJson a) (ofJson b) := by
  have hfault : ∀ {value : Json}, value.fields? = none → ofJson value = .error .notObject := by
    intro value hvalue
    cases value with
    | object => cases hvalue
    | _ => simp only [ofJson]
  rw [hfault ha, hfault hb]
  exact .error _ _

namespace ReadAlike

/-- Operators and clauses are read from the same operand as conditions, selectors and matchers. -/
lemma of_operand {a b : Json} (h : Same a b)
    (hselector : Alike SelectorsAgree (ofJson a) (ofJson b))
    (hselectors : ∀ key, Alike (Paired SelectorsAgree) (combined key a) (combined key b))
    (hcondition : Alike ConditionsAgree (conditionOf a) (conditionOf b)) : ReadAlike a b := by
  have hmatcher : Alike MatchersAgree (matcherOf a) (matcherOf b) := by
    have hfields : a.fields?.any describesFields = b.fields?.any describesFields := by
      cases h.shape with
      | object => exact describesFields_eq h
      | _ => rfl
    rw [matcherOf_eq, matcherOf_eq, hfields]
    split
    · exact hselector.map .fields
    · exact hcondition.map .value
  have hnegated : Alike SelectorsAgree (negated a) (negated b) := by
    cases h.shape with
    | array => exact .error _ _
    | _ => exact hselector
  refine ⟨hselector, fun key => ?_, hcondition, fun name => ?_, hmatcher⟩
  · rw [clauseOf_eq, clauseOf_eq]
    split
    · exact (hselectors _).map .and
    · exact (hselectors _).map .or
    · exact (hselectors _).map .nor
    · exact hnegated.map .not
    · exact hcondition.map (.field _)
  · unfold operatorOf
    split
    · exact hmatcher.map .elemMatch
    · exact hmatcher.map .allMatch
    · exact hcondition.map .keyMapMatch
    · exact readPlain_alike name h

end ReadAlike

/-- From values that are the same, selectors and their parts are read with like outcomes. -/
lemma readAlike {a b : Json} (h : Same a b) : ReadAlike a b := by
  -- the items and the values of the fields are read alike by induction, as selectors, clauses and
  -- operators alike; `of_operand` makes up for the names that the value itself may stand under
  induction a using Json.induction generalizing b with
  | null =>
    cases h.shape
    refine .of_operand h (notObject_alike rfl rfl) (fun _ => .error _ _) ?_
    simp only [conditionOf]
    exact .ok Agree.null
  | bool | number | string =>
    cases h.shape
    refine .of_operand h (notObject_alike rfl rfl) (fun _ => .error _ _) ?_
    simp only [conditionOf]
    exact .ok (Agree.equals h)
  | array items ih =>
    cases h.shape with
    | array hitems =>
      rename_i others
      have hcondition : Alike ConditionsAgree (conditionOf (.array items))
          (conditionOf (.array others)) := by
        rw [conditionOf, conditionOf]
        exact .ok (Agree.elements h)
      refine .of_operand h (notObject_alike rfl rfl) (fun key => ?_) hcondition
      rw [combined, combined, listOf_eq_mapM, listOf_eq_mapM]
      refine .mapM ((Paired.of_forall₂ hitems).imp ?_)
      intro item hitem other _ hsame
      exact (ih item hitem hsame).selector
  | object fields ih =>
    cases h.shape with
    | object =>
      refine .of_operand h ?_ (fun key => .error _ _) ?_
      · rw [ofJson, ofJson, clausesOf_eq_mapM, clausesOf_eq_mapM]
        refine Alike.map (.mapM (h.paired.imp ?_)) .mk
        rintro field hfield other _ ⟨hkey, hsame⟩
        rw [hkey]
        exact (ih field hfield hsame).clause other.1
      · rw [conditionOf, conditionOf, operatorsOf_eq_mapM, operatorsOf_eq_mapM]
        refine Alike.map (.mapM (h.paired.imp ?_)) .operators
        rintro field hfield other _ ⟨hkey, hsame⟩
        rw [hkey]
        exact (ih field hfield hsame).operator other.1

/-- Matching respects equality on both sides. Of two equal values, which may differ in the order of
fields and the spelling of numbers at any depth, a selector can be read from both or from neither,
and without `$regex` the two selectors match equal documents alike. The objects repeat no key, as in
every value that is read from a text (`Json.distinctKeys_of_read?`). -/
theorem matchesDocument_deepEqual {s t d e : Json} (hs : s.distinctKeys = true)
    (ht : t.distinctKeys = true) (hd : d.distinctKeys = true) (he : e.distinctKeys = true)
    (hst : s.deepEqual t = true) (hde : d.deepEqual e = true) :
    (ofJson s).isOk = (ofJson t).isOk ∧
      ∀ p q, ofJson s = .ok p → ofJson t = .ok q → p.regexFree = true →
        p.matchesDocument d = q.matchesDocument e := by
  have halike : Alike SelectorsAgree (ofJson s) (ofJson t) := (readAlike ⟨hst, hs, ht⟩).selector
  refine ⟨halike.isOk_eq, ?_⟩
  intro p q hp hq hfree
  rw [hp, hq] at halike
  rw [matchesDocument_eq, matchesDocument_eq]
  cases halike with
  | ok hagree => exact hagree hfree ⟨hde, hd, he⟩

/-- A `$not` beside an `$elemMatch`: the fields in another order at every level, the numbers spelled
as floats, and the zero of the second document negative. -/
theorem matchesDocument_deepEqual_respelled :
    let float (n : Int) : Json := .number (.float (.ofInt n))
    let tagged (wanted : Json) : Json := .object [("$elemMatch", .object [("$eq", wanted)])]
    let s : Json := .object [("$not", .object [("n", .int 2)]),
      ("tags", tagged (.object [("a", .int 1), ("b", .array [.int 0])]))]
    let t : Json := .object [("tags", tagged (.object [("b", .array [float 0]), ("a", float 1)])),
      ("$not", .object [("n", float 2)])]
    let d : Json := .object [("n", .int 1),
      ("tags", .array [.object [("b", .array [.int 0]), ("a", .int 1)]])]
    let e : Json := .object [("tags", .array [.object [("a", float 1),
      ("b", .array [.number (.float (.zero true))])]]), ("n", float 1)]
    ∃ p q, ofJson s = .ok p ∧ ofJson t = .ok q ∧
      p.matchesDocument d = true ∧ q.matchesDocument e = true := by
  intro float tagged s t d e
  let tags (wanted : Json) : Clause :=
    .field "tags" (.operators [.elemMatch (.value (.operators [.eq wanted]))])
  let other (n : Json) : Clause := .not (.mk [.field "n" (.equals n)])
  let p : Selector := .mk [other (.int 2), tags (.object [("a", .int 1), ("b", .array [.int 0])])]
  let q : Selector :=
    .mk [tags (.object [("b", .array [float 0]), ("a", float 1)]), other (float 2)]
  have hoperator : Text.startsWith "$eq" "$" = true := by decide
  have hp : ofJson s = .ok p := by
    simp [s, p, tagged, tags, other, Json.int, ofJson, clausesOf, clauseOf, operatorsOf, operatorOf,
      matcherOf, describesFields, hoperator, readPlain, bind, Except.bind, Except.map, pure,
      Except.pure]
  have hq : ofJson t = .ok q := by
    simp [t, q, tagged, tags, other, float, ofJson, clausesOf, clauseOf, operatorsOf, operatorOf,
      matcherOf, describesFields, hoperator, readPlain, bind, Except.bind, Except.map, pure,
      Except.pure]
  obtain ⟨-, hmatches⟩ := matchesDocument_deepEqual (s := s) (t := t) (d := d) (e := e)
    (by decide) (by decide) (by decide) (by decide) (by decide +kernel) (by decide +kernel)
  have hd : p.matchesDocument d = true := by decide +kernel
  exact ⟨p, q, hp, hq, hd, (hmatches p q hp hq rfl).symm.trans hd⟩

end DocumentDb.Selector
