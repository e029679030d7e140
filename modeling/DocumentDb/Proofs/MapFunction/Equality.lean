import DocumentDb.Proofs.MapFunction.Literals

/-!
# Map functions and equal documents

Equal documents differ in the order of fields and the spelling of numbers. Truth values, comparisons
and members of objects are the same for both; the one thing that tells them apart is a number in
brackets behind an array, which names an item only where it is spelled as an integer. Where the
numbers that a map function uses in this way name the same items, it emits equal rows for equal
documents; and so it does wherever no key of a member is computed.
-/

namespace DocumentDb.MapFunction

open Json (Same)

/-! ### Comparisons -/

/-- No comparison tells two numeric readings apart. -/
def Alike (x y : Extended) : Prop :=
  ∀ z : Extended, x.compare? z = y.compare? z ∧ z.compare? x = z.compare? y

lemma Alike.compare?_eq {x x' y y' : Extended} (hx : Alike x x') (hy : Alike y y') :
    x.compare? y = x'.compare? y' :=
  (hx y).1.trans (hy x').2

variable {v v' w w' : Option Json}

lemma toNumber_alike (h : Option.Rel Same v w) : Alike (toNumber v) (toNumber w) := by
  intro z
  cases h with
  | none => exact ⟨rfl, rfl⟩
  | some h =>
    cases h.shape with
    | number hunits => cases z <;> simp [toNumber, Extended.compare?, Double.compare, hunits]
    | _ => exact ⟨rfl, rfl⟩

lemma isNullish_eq (h : Option.Rel Same v w) : isNullish v = isNullish w := by
  cases h with
  | none => rfl
  | some h => cases h.shape <;> rfl

lemma isPrimitive_eq {a b : Json} (h : Same a b) : isPrimitive a = isPrimitive b := by
  cases h.shape <;> rfl

lemma strictEqual_eq (hv : Option.Rel Same v v') (hw : Option.Rel Same w w') :
    strictEqual v w = strictEqual v' w' := by
  cases hv with
  | none => cases hw <;> rfl
  | some ha =>
    have hshape := ha.shape
    cases hw with
    | none => cases hshape <;> rfl
    | some hb =>
      have hequal := Same.deepEqual_eq ha hb
      cases hshape with
      | array | object => rfl
      | _ => exact hequal

lemma looseEqual_eq (hv : Option.Rel Same v v') (hw : Option.Rel Same w w') :
    looseEqual v w = looseEqual v' w' := by
  have hnumbers : (toNumber v).numericEq (toNumber w) = (toNumber v').numericEq (toNumber w') := by
    rw [Extended.numericEq, (toNumber_alike hv).compare?_eq (toNumber_alike hw),
      Extended.numericEq]
  have hstrict := strictEqual_eq hv hw
  unfold looseEqual
  rw [isNullish_eq hv, isNullish_eq hw]
  cases hv with
  | none => cases hw <;> rfl
  | some ha =>
    cases hw with
    | none => rfl
    | some hb =>
      simp only [isPrimitive_eq ha, isPrimitive_eq hb, ha.kind_eq, hb.kind_eq, hnumbers, hstrict]

lemma order?_eq (hv : Option.Rel Same v v') (hw : Option.Rel Same w w') :
    order? v w = order? v' w' := by
  have hnumbers := (toNumber_alike hv).compare?_eq (toNumber_alike hw)
  cases hv with
  | none => exact hnumbers
  | some ha =>
    cases ha.shape with
    | string s =>
      cases hw with
      | none => exact hnumbers
      | some hb =>
        cases hb.shape with
        | string t => rfl
        | _ => exact hnumbers
    | _ => exact hnumbers

/-- No comparison tells values apart that are the same. -/
lemma holds_eq (operator : Comparison) (hv : Option.Rel Same v v') (hw : Option.Rel Same w w') :
    operator.holds v w = operator.holds v' w' := by
  cases operator with
  | strictEq | strictNe => simp only [Comparison.holds, strictEqual_eq hv hw]
  | looseEq | looseNe => simp only [Comparison.holds, looseEqual_eq hv hw]
  | less | lessEq | greater | greaterEq => simp only [Comparison.holds, order?_eq hv hw]

lemma truthy_eq (h : Option.Rel Same v w) : Json.truthy v = Json.truthy w := by
  cases h with
  | none => rfl
  | some h => exact h.truthy_eq

lemma getD_null_same (h : Option.Rel Same v w) : Same (v.getD .null) (w.getD .null) := by
  cases h with
  | none => exact .refl rfl
  | some h => exact h

/-! ### Members -/

/-- The position in an array that a number names: only integers that are not negative name one. -/
def position? : Number → Option Nat
  | .int n _ => if 0 ≤ n then some n.toNat else none
  | .float _ => none

lemma member?_number (items : List Json) (n : Number) :
    member? (.array items) (.number n) = (position? n).bind (items[·]?) := by
  cases n with
  | int n inRange =>
    simp only [member?, position?]
    split <;> rfl
  | float x => rfl

/-- Members are the same, where numbers that stand behind arrays name the same position. -/
lemma member?_rel {base base' key key' : Json} (hbase : Same base base') (hkey : Same key key')
    (hposition : ∀ items m n, base = .array items → key = .number m → key' = .number n →
      position? m = position? n) :
    Option.Rel Same (member? base key) (member? base' key') := by
  have hlength {m n : Nat} (h : m = n) : Option.Rel Same (some (.nat m)) (some (.nat n)) := by
    rw [h]
    exact .some (.refl rfl)
  cases hbase.shape with
  | object hfields hfields' hvalues =>
    cases hkey.shape with
    | string key => exact hvalues key
    | _ => exact .none
  | @array items items' hitems =>
    cases hkey.shape with
    | string key =>
      simp only [member?]
      split
      · exact hlength hitems.length_eq
      · cases Text.natural? key with
        | none => exact .none
        | some position => exact Same.rel_getElem? hitems position
    | number =>
      rw [member?_number, member?_number, hposition _ _ _ rfl rfl rfl]
      cases position? _ with
      | none => exact .none
      | some position => exact Same.rel_getElem? hitems position
    | _ => exact .none
  | string s =>
    cases hkey.shape with
    | string key =>
      simp only [member?]
      split
      · exact hlength rfl
      · exact .none
    | _ => exact .none
  | _ => cases hkey.shape <;> exact .none

/-! ### Two runs -/

/-- Whether a key names the same position in two runs, where it is a number behind an array. -/
def samePosition : Option Json → Option Json → Option Json → Bool
  | some (.array _), some (.number m), some (.number n) => position? m == position? n
  | _, _, _ => true

mutual

/-- Whether the items of arrays that are read while an expression is evaluated for two documents are
read at the same positions. -/
def Expr.readsAlike (d e : Json) : Expr → Bool
  | .literal _ | .undefined | .parameter => true
  | .member base key =>
    base.readsAlike d e && key.readsAlike d e &&
      samePosition (base.eval d) (key.eval d) (key.eval e)
  | .array items => itemsReadAlike d e items
  | .object fields => fieldsReadAlike d e fields
  | .not operand => operand.readsAlike d e
  | .and left right =>
    left.readsAlike d e && (!Json.truthy (left.eval d) || right.readsAlike d e)
  | .or left right => left.readsAlike d e && (Json.truthy (left.eval d) || right.readsAlike d e)
  | .compare _ left right => left.readsAlike d e && right.readsAlike d e

@[inherit_doc Expr.readsAlike]
def itemsReadAlike (d e : Json) : List Expr → Bool
  | [] => true
  | item :: items => item.readsAlike d e && itemsReadAlike d e items

@[inherit_doc Expr.readsAlike]
def fieldsReadAlike (d e : Json) : List (String × Expr) → Bool
  | [] => true
  | (_, value) :: fields => value.readsAlike d e && fieldsReadAlike d e fields

end

mutual

/-- Whether the expressions that are evaluated while a statement is run for two documents read items
of arrays at the same positions. -/
def Stmt.readsAlike (d e : Json) : Stmt → Bool
  | .emit key value => key.all (·.readsAlike d e) && value.all (·.readsAlike d e)
  | .branch condition yes no =>
    condition.readsAlike d e &&
      if Json.truthy (condition.eval d) then yes.readsAlike d e else elseReadsAlike d e no
  | .block body => bodyReadsAlike d e body
  | .empty => true

@[inherit_doc Stmt.readsAlike]
def elseReadsAlike (d e : Json) : Option Stmt → Bool
  | some stmt => stmt.readsAlike d e
  | none => true

@[inherit_doc Stmt.readsAlike]
def bodyReadsAlike (d e : Json) : List Stmt → Bool
  | [] => true
  | stmt :: body => stmt.readsAlike d e && bodyReadsAlike d e body

end

variable {d e : Json}

lemma evalItems_same {items : List Expr}
    (h : ∀ item ∈ items, item.readsAlike d e = true →
      Option.Rel Same (item.eval d) (item.eval e))
    (halike : itemsReadAlike d e items = true) :
    List.Forall₂ Same (evalItems d items) (evalItems e items) := by
  induction items with
  | nil => exact .nil
  | cons item items ih =>
    rw [List.forall_mem_cons] at h
    rw [itemsReadAlike, Bool.and_eq_true] at halike
    exact .cons (getD_null_same (h.1 halike.1)) (ih h.2 halike.2)

/-- Fields with the same values under the same keys in the same places. -/
abbrev SameFields : List (String × Json) → List (String × Json) → Prop :=
  List.Forall₂ fun a b => a.1 = b.1 ∧ Same a.2 b.2

lemma evalFields_same {fields : List (String × Expr)}
    (h : ∀ field ∈ fields, field.2.readsAlike d e = true →
      Option.Rel Same (field.2.eval d) (field.2.eval e))
    (halike : fieldsReadAlike d e fields = true) :
    SameFields (evalFields d fields) (evalFields e fields) := by
  induction fields with
  | nil => exact .nil
  | cons field fields ih =>
    obtain ⟨key, expr⟩ := field
    rw [List.forall_mem_cons] at h
    rw [fieldsReadAlike, Bool.and_eq_true] at halike
    have hvalue := h.1 halike.1
    have hrest := ih h.2 halike.2
    rw [evalFields, evalFields]
    generalize expr.eval d = v, expr.eval e = w at hvalue
    cases hvalue with
    | none => exact hrest
    | some hsame => exact .cons ⟨rfl, hsame⟩ hrest

/-- Written one after the other, such fields make objects that are the same. -/
lemma ofList_same {as bs : List (String × Json)} (h : SameFields as bs) :
    Same (.object (Fields.ofList as)) (.object (Fields.ofList bs)) := by
  refine .of_shape (.object (Fields.nodup_keys_ofList as) (Fields.nodup_keys_ofList bs) ?_)
  suffices hfold : ∀ fields others : Fields Json,
      (∀ key, Option.Rel Same (Fields.value? fields key) (Fields.value? others key)) →
        ∀ key, Option.Rel Same
          (Fields.value? (as.foldl (fun fields pair => Fields.put fields pair.1 pair.2) fields) key)
          (Fields.value? (bs.foldl (fun fields pair => Fields.put fields pair.1 pair.2) others) key)
    from hfold [] [] fun _ => .none
  induction h with
  | nil => exact fun _ _ hvalues => hvalues
  | cons hab _ ih =>
    intro fields others hvalues
    apply ih
    intro key
    rw [Fields.value?_put, Fields.value?_put, hab.1]
    split
    · exact .some hab.2
    · exact hvalues key

/-- An expression that reads alike has the same value for documents that are the same. -/
lemma Expr.eval_same (hsame : Same d e) {expr : Expr} (hplain : expr.Plain)
    (halike : expr.readsAlike d e = true) : Option.Rel Same (expr.eval d) (expr.eval e) := by
  induction hplain with
  | literal hscalar => exact .some (.refl (Json.distinctKeys_of_isScalar hscalar))
  | undefined => exact .none
  | parameter => exact .some hsame
  | @member base key _ _ ihbase ihkey =>
    simp only [readsAlike, Bool.and_eq_true] at halike
    obtain ⟨⟨hbase, hkey⟩, hposition⟩ := halike
    have hbase := ihbase hbase
    have hkey := ihkey hkey
    rw [eval, eval]
    generalize base.eval d = v, base.eval e = v', key.eval d = w, key.eval e = w'
      at hbase hkey hposition
    cases hbase with
    | none => exact .none
    | some hbase =>
      cases hkey with
      | none => exact .none
      | some hkey =>
        apply member?_rel hbase hkey
        rintro items m n rfl rfl rfl
        simpa [samePosition] using hposition
  | array _ ih => exact .some (.of_shape (.array (evalItems_same ih halike)))
  | object _ ih => exact .some (ofList_same (evalFields_same ih halike))
  | not _ ih =>
    rw [eval, eval, truthy_eq (ih halike)]
    exact .some (.refl rfl)
  | and _ _ ihleft ihright =>
    rw [readsAlike, Bool.and_eq_true] at halike
    have hvalue := ihleft halike.1
    rw [eval, eval, ← truthy_eq hvalue]
    split
    · rename_i htruthy
      apply ihright
      simpa [htruthy] using halike.2
    · exact hvalue
  | or _ _ ihleft ihright =>
    rw [readsAlike, Bool.and_eq_true] at halike
    have hvalue := ihleft halike.1
    rw [eval, eval, ← truthy_eq hvalue]
    split
    · exact hvalue
    · rename_i htruthy
      apply ihright
      simpa [htruthy] using halike.2
  | compare operator _ _ ihleft ihright =>
    rw [readsAlike, Bool.and_eq_true] at halike
    rw [eval, eval, holds_eq operator (ihleft halike.1) (ihright halike.2)]
    exact .some (.refl rfl)

/-! ### Functions without computed keys -/

mutual

/-- Whether the keys of all members in an expression are literals. -/
def Expr.literalKeys : Expr → Bool
  | .literal _ | .undefined | .parameter => true
  | .member base (.literal _) => base.literalKeys
  | .member _ _ => false
  | .array items => itemsLiteralKeys items
  | .object fields => fieldsLiteralKeys fields
  | .not operand => operand.literalKeys
  | .and left right | .or left right | .compare _ left right =>
    left.literalKeys && right.literalKeys

@[inherit_doc Expr.literalKeys]
def itemsLiteralKeys : List Expr → Bool
  | [] => true
  | item :: items => item.literalKeys && itemsLiteralKeys items

@[inherit_doc Expr.literalKeys]
def fieldsLiteralKeys : List (String × Expr) → Bool
  | [] => true
  | (_, value) :: fields => value.literalKeys && fieldsLiteralKeys fields

end

mutual

/-- Whether the keys of all members in a statement are literals. -/
def Stmt.literalKeys : Stmt → Bool
  | .emit key value => key.all (·.literalKeys) && value.all (·.literalKeys)
  | .branch condition yes no =>
    condition.literalKeys && yes.literalKeys && elseLiteralKeys no
  | .block body => bodyLiteralKeys body
  | .empty => true

@[inherit_doc Stmt.literalKeys]
def elseLiteralKeys : Option Stmt → Bool
  | some stmt => stmt.literalKeys
  | none => true

@[inherit_doc Stmt.literalKeys]
def bodyLiteralKeys : List Stmt → Bool
  | [] => true
  | stmt :: body => stmt.literalKeys && bodyLiteralKeys body

end

/-- A literal names the same position in both runs. -/
lemma samePosition_self (base : Option Json) (key : Json) :
    samePosition base (some key) (some key) = true := by
  unfold samePosition
  split
  · rename_i hm hn
    cases hm
    cases hn
    exact beq_self_eq_true _
  · rfl

mutual

lemma Expr.readsAlike_of_literalKeys (d e : Json) (expr : Expr) (h : expr.literalKeys = true) :
    expr.readsAlike d e = true := by
  match expr with
  | .literal _ | .undefined | .parameter => rfl
  | .member base (.literal key) =>
    rw [Expr.readsAlike, base.readsAlike_of_literalKeys d e h, Expr.readsAlike, Expr.eval,
      Expr.eval, samePosition_self]
    rfl
  | .array items => exact itemsReadAlike_of_literalKeys d e items h
  | .object fields => exact fieldsReadAlike_of_literalKeys d e fields h
  | .not operand => exact operand.readsAlike_of_literalKeys d e h
  | .and left right | .or left right | .compare _ left right =>
    rw [Expr.literalKeys, Bool.and_eq_true] at h
    simp [Expr.readsAlike, left.readsAlike_of_literalKeys d e h.1,
      right.readsAlike_of_literalKeys d e h.2]

lemma itemsReadAlike_of_literalKeys (d e : Json) (items : List Expr)
    (h : itemsLiteralKeys items = true) : itemsReadAlike d e items = true := by
  match items with
  | [] => rfl
  | item :: items =>
    rw [itemsLiteralKeys, Bool.and_eq_true] at h
    rw [itemsReadAlike, item.readsAlike_of_literalKeys d e h.1,
      itemsReadAlike_of_literalKeys d e items h.2]
    rfl

lemma fieldsReadAlike_of_literalKeys (d e : Json) (fields : List (String × Expr))
    (h : fieldsLiteralKeys fields = true) : fieldsReadAlike d e fields = true := by
  match fields with
  | [] => rfl
  | (_, value) :: fields =>
    rw [fieldsLiteralKeys, Bool.and_eq_true] at h
    rw [fieldsReadAlike, value.readsAlike_of_literalKeys d e h.1,
      fieldsReadAlike_of_literalKeys d e fields h.2]
    rfl

end

mutual

lemma Stmt.readsAlike_of_literalKeys (d e : Json) (stmt : Stmt) (h : stmt.literalKeys = true) :
    stmt.readsAlike d e = true := by
  match stmt with
  | .emit key value =>
    have hargument (expr : Option Expr) (h : expr.all (·.literalKeys) = true) :
        expr.all (·.readsAlike d e) = true := by
      cases expr with
      | none => rfl
      | some expr => exact expr.readsAlike_of_literalKeys d e h
    rw [Stmt.literalKeys, Bool.and_eq_true] at h
    rw [Stmt.readsAlike, hargument key h.1, hargument value h.2]
    rfl
  | .branch condition yes no =>
    rw [Stmt.literalKeys, Bool.and_eq_true, Bool.and_eq_true] at h
    obtain ⟨⟨hcondition, hyes⟩, hno⟩ := h
    rw [Stmt.readsAlike, condition.readsAlike_of_literalKeys d e hcondition,
      yes.readsAlike_of_literalKeys d e hyes, elseReadsAlike_of_literalKeys d e no hno, ite_self]
    rfl
  | .block body => exact bodyReadsAlike_of_literalKeys d e body h
  | .empty => rfl

lemma elseReadsAlike_of_literalKeys (d e : Json) (no : Option Stmt)
    (h : elseLiteralKeys no = true) : elseReadsAlike d e no = true := by
  match no with
  | some stmt => exact stmt.readsAlike_of_literalKeys d e h
  | none => rfl

lemma bodyReadsAlike_of_literalKeys (d e : Json) (body : List Stmt)
    (h : bodyLiteralKeys body = true) : bodyReadsAlike d e body = true := by
  match body with
  | [] => rfl
  | stmt :: body =>
    rw [bodyLiteralKeys, Bool.and_eq_true] at h
    rw [bodyReadsAlike, stmt.readsAlike_of_literalKeys d e h.1,
      bodyReadsAlike_of_literalKeys d e body h.2]
    rfl

end

/-! ### Rows -/

/-- Rows that are the same pair by pair. -/
abbrev SameRows : List (Json × Json) → List (Json × Json) → Prop :=
  List.Forall₂ fun a b => Same a.1 b.1 ∧ Same a.2 b.2

lemma argument_same (hsame : Same d e) {expr : Option Expr} (hplain : ∀ k ∈ expr, k.Plain)
    (halike : expr.all (·.readsAlike d e) = true) :
    Same (argument d expr) (argument e expr) := by
  apply getD_null_same
  cases expr with
  | none => exact .none
  | some expr => exact expr.eval_same hsame (hplain expr rfl) halike

lemma bodyRows_same {body : List Stmt}
    (h : ∀ stmt ∈ body, stmt.readsAlike d e = true → SameRows (stmt.rows d) (stmt.rows e))
    (halike : bodyReadsAlike d e body = true) :
    SameRows (bodyRows d body) (bodyRows e body) := by
  induction body with
  | nil => exact .nil
  | cons stmt body ih =>
    rw [List.forall_mem_cons] at h
    rw [bodyReadsAlike, Bool.and_eq_true] at halike
    exact List.rel_append (h.1 halike.1) (ih h.2 halike.2)

/-- A statement that reads alike emits the same rows for documents that are the same. -/
lemma Stmt.rows_same (hsame : Same d e) {stmt : Stmt} (hplain : stmt.Plain)
    (halike : stmt.readsAlike d e = true) : SameRows (stmt.rows d) (stmt.rows e) := by
  induction hplain with
  | emit hkey hvalue =>
    rw [readsAlike, Bool.and_eq_true] at halike
    exact .cons ⟨argument_same hsame hkey halike.1, argument_same hsame hvalue halike.2⟩ .nil
  | @branch condition yes no hcondition _ _ ihyes ihno =>
    rw [readsAlike, Bool.and_eq_true] at halike
    rw [rows, rows, ← truthy_eq (condition.eval_same hsame hcondition halike.1)]
    have hchosen := halike.2
    split
    · rename_i htruthy
      rw [if_pos htruthy] at hchosen
      exact ihyes hchosen
    · rename_i htruthy
      rw [if_neg htruthy] at hchosen
      cases no with
      | none => exact .nil
      | some no => exact ihno no rfl hchosen
  | block _ ih => exact bodyRows_same ih halike
  | empty => exact .nil

/-- A compiled function that reads alike emits the same rows for documents that are the same. -/
lemma call_same {source : String} {function : MapFunction}
    (hsource : compile source = .ok function) (hsame : Same d e)
    (halike : bodyReadsAlike d e function.body = true) :
    SameRows (function.call d) (function.call e) :=
  bodyRows_same (fun stmt hstmt => stmt.rows_same hsame (plain_of_compile hsource stmt hstmt))
    halike

lemma SameRows.deepEqual {rows others : List (Json × Json)} (h : SameRows rows others) :
    List.Forall₂ (fun a b => a.1.deepEqual b.1 = true ∧ a.2.deepEqual b.2 = true) rows others :=
  h.imp fun _ _ hrow => ⟨hrow.1.deepEqual, hrow.2.deepEqual⟩

/-- For equal documents a compiled function emits equal rows, as many and in the same order, unless
it reads an array at numbers that are equal but do not name the same position. -/
theorem call_deepEqual {source : String} {function : MapFunction}
    (hsource : compile source = .ok function) {d e : Json} (hd : d.distinctKeys = true)
    (he : e.distinctKeys = true) (hequal : d.deepEqual e = true)
    (halike : bodyReadsAlike d e function.body = true) :
    List.Forall₂ (fun a b => a.1.deepEqual b.1 = true ∧ a.2.deepEqual b.2 = true)
      (function.call d) (function.call e) :=
  (call_same hsource ⟨hequal, hd, he⟩ halike).deepEqual

/-- Where the position is an integer in both documents, the rows are equal, though a number is
spelled in two ways and the fields stand in two orders. -/
theorem call_deepEqual_reordered :
    let d : Json := .object
      [("a", .array [.string "x", .string "y"]), ("i", .int 1), ("n", .int 2)]
    let e : Json := .object
      [("n", .number (.float (.ofInt 2))), ("i", .int 1),
        ("a", .array [.string "x", .string "y"])]
    ∃ function, compile "doc => { if (doc.n > 0) emit(doc.a[doc.i], doc.n) }" = .ok function ∧
      d.distinctKeys = true ∧ e.distinctKeys = true ∧ d.deepEqual e = true ∧
      bodyReadsAlike d e function.body = true ∧
      List.Forall₂ (fun a b => a.1.deepEqual b.1 = true ∧ a.2.deepEqual b.2 = true)
        (function.call d) (function.call e) := by
  intro d e
  have hd : d.distinctKeys = true := by decide +kernel
  have he : e.distinctKeys = true := by decide +kernel
  have hequal : d.deepEqual e = true := by decide +kernel
  have halike : (compile "doc => { if (doc.n > 0) emit(doc.a[doc.i], doc.n) }").toOption.any
      (bodyReadsAlike d e ·.body) = true := by
    decide +kernel
  cases hcompile : compile "doc => { if (doc.n > 0) emit(doc.a[doc.i], doc.n) }" with
  | error error =>
    rw [hcompile] at halike
    cases halike
  | ok function =>
    rw [hcompile] at halike
    exact ⟨function, rfl, hd, he, hequal, halike, call_deepEqual hcompile hd he hequal halike⟩

/-- An item is found at a position that is spelled as an integer, and none where the same number is
spelled as a float. -/
theorem not_call_deepEqual_respelled :
    ¬ ∀ source function, compile source = .ok function → ∀ d e : Json, d.distinctKeys = true →
      e.distinctKeys = true → d.deepEqual e = true →
        List.Forall₂ (fun a b => a.1.deepEqual b.1 = true ∧ a.2.deepEqual b.2 = true)
          (function.call d) (function.call e) := by
  intro h
  let d : Json := .object [("a", .array [.string "x", .string "y"]), ("i", .int 1)]
  let e : Json := .object
    [("a", .array [.string "x", .string "y"]), ("i", .number (.float (.ofInt 1)))]
  have hdiffer : (compile "doc => emit(doc.a[doc.i], 1)").toOption.any (fun function =>
      ((function.call d).zip (function.call e)).any fun rows =>
        !rows.1.1.deepEqual rows.2.1) = true := by
    decide +kernel
  cases hcompile : compile "doc => emit(doc.a[doc.i], 1)" with
  | error error =>
    rw [hcompile] at hdiffer
    cases hdiffer
  | ok function =>
    rw [hcompile] at hdiffer
    obtain ⟨⟨a, b⟩, hrows, hkeys⟩ := List.any_eq_true.mp hdiffer
    have hequal := h _ function hcompile d e (by decide +kernel) (by decide +kernel)
      (by decide +kernel)
    have hsame := (List.forall₂_iff_zip.mp hequal).2 hrows
    rw [hsame.1] at hkeys
    cases hkeys

/-- For equal documents a compiled function without computed keys emits equal rows. -/
theorem call_deepEqual_of_literalKeys {source : String} {function : MapFunction}
    (hsource : compile source = .ok function) (hkeys : bodyLiteralKeys function.body = true)
    {d e : Json} (hd : d.distinctKeys = true) (he : e.distinctKeys = true)
    (hequal : d.deepEqual e = true) :
    List.Forall₂ (fun a b => a.1.deepEqual b.1 = true ∧ a.2.deepEqual b.2 = true)
      (function.call d) (function.call e) :=
  (call_same hsource ⟨hequal, hd, he⟩
    (bodyReadsAlike_of_literalKeys d e function.body hkeys)).deepEqual

end DocumentDb.MapFunction
