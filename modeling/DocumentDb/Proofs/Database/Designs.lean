import DocumentDb.Proofs.Document.RoundTrip
import DocumentDb.Proofs.View.Programs

/-!
# Stored design documents and their compiled views

A design document is kept twice: the store has its body and the views have what was compiled from
it. The two are written in separate steps, yet they stay in step whatever calls lead to a database:
both have the same ids in the same order, and under each id the views are those that the stored
body, read again, declares.

`Fields.Aligned` is what it means to be in step, for the design documents of a database as for the
views of one of them. It is kept by writing related values under one key on both sides.
-/

namespace DocumentDb

universe u v

variable {α : Type u} {β : Type v}

/-! ### Fields in step -/

/-- The same keys in the same order, with related values under them. -/
structure Fields.Aligned (Related : String → α → β → Prop) (left : Fields α) (right : Fields β) :
    Prop where
  keys : Fields.keys left = Fields.keys right
  related : ∀ key a b, Fields.value? left key = some a → Fields.value? right key = some b →
    Related key a b

namespace Fields.Aligned

variable {Related : String → α → β → Prop} {left : Fields α} {right : Fields β}

lemma nil : Aligned Related ([] : Fields α) ([] : Fields β) where
  keys := rfl
  related _ _ _ h := nomatch h

lemma isSome_eq (h : Aligned Related left right) (key : String) :
    (value? left key).isSome = (value? right key).isSome := by
  rw [Bool.eq_iff_iff, isSome_value?_iff, isSome_value?_iff, h.keys]

/-- A value on the left has one on the right that it is related to. -/
lemma exists_of_left (h : Aligned Related left right) {key : String} {a : α}
    (ha : value? left key = some a) : ∃ b, value? right key = some b ∧ Related key a b := by
  have hsome := h.isSome_eq key
  rw [ha, Option.isSome_some, eq_comm, Option.isSome_iff_exists] at hsome
  obtain ⟨b, hb⟩ := hsome
  exact ⟨b, hb, h.related key a b ha hb⟩

lemma put (h : Aligned Related left right) {key : String} {a : α} {b : β}
    (hab : Related key a b) : Aligned Related (Fields.put left key a) (Fields.put right key b) where
  keys := by rw [keys_put, keys_put, h.keys]
  related other c d hc hd := by
    rw [value?_put] at hc hd
    split at hc
    · rename_i hother
      rw [if_pos hother] at hd
      cases hc
      cases hd
      exact hother ▸ hab
    · rename_i hother
      rw [if_neg hother] at hd
      exact h.related other c d hc hd

lemma drop (h : Aligned Related left right) (key : String) :
    Aligned Related (Fields.drop left key) (Fields.drop right key) where
  keys := by rw [keys_drop, keys_drop, h.keys]
  related other c d hc hd := by
    rw [value?_drop] at hc hd
    split at hc
    · cases hc
    · rename_i hother
      rw [if_neg hother] at hd
      exact h.related other c d hc hd

end Fields.Aligned

namespace Table

variable {Related : String → α → β → Prop} {left : Fields α} {right : Table β}

/-- Values may be changed as long as they stay related. -/
lemma aligned_mapValues (h : Fields.Aligned Related left right.entries) {change : β → β}
    (hchange : ∀ key a b, Related key a b → Related key a (change b)) :
    Fields.Aligned Related left (right.mapValues change).entries where
  keys := h.keys.trans (keys_mapValues right change).symm
  related key a b ha hb := by
    rw [← get?, get?_mapValues, Option.map_eq_some_iff] at hb
    obtain ⟨b, hb, rfl⟩ := hb
    exact hchange key a b (h.related key a b ha hb)

lemma aligned_modify (h : Fields.Aligned Related left right.entries) (key : String)
    {change : β → β} (hchange : ∀ key a b, Related key a b → Related key a (change b)) :
    Fields.Aligned Related left (right.modify key change).entries where
  keys := h.keys.trans (keys_modify right key change).symm
  related other a b ha hb := by
    rw [← get?, get?_modify] at hb
    split at hb
    · rw [Option.map_eq_some_iff] at hb
      obtain ⟨b, hb, rfl⟩ := hb
      exact hchange other a b (h.related other a b ha hb)
    · exact h.related other a b ha hb

end Table

/-! ### Declared and compiled views -/

/-- The view of a name is what a declaration of that name says: it has the reducer that the
declaration names, and none where no reducer is named. -/
def ViewDeclaration.Declares (name : String) (declaration : ViewDeclaration) (view : View) : Prop :=
  view.name = name ∧ view.reducer.map Reducer.name = declaration.reduce

/-- The views are those that a design document declares, under the same names in the same order and
with the same reducers, and the language is the same. -/
structure DesignDocument.CompilesTo (design : DesignDocument) (compiled : DesignViews) : Prop where
  language : compiled.language = design.language
  views : Fields.Aligned ViewDeclaration.Declares (Fields.ofList design.views)
    compiled.views.entries

lemma View.declares_compile {name : String} {declaration : ViewDeclaration} {view : View}
    (h : View.compile name declaration = .ok view) : declaration.Declares name view := by
  obtain ⟨reducer, hreducer, hrest⟩ := bind_eq_ok_iff.mp h
  obtain ⟨function, -, hview⟩ := bind_eq_ok_iff.mp hrest
  cases hview
  exact ⟨rfl, Reducer.map_name_of_ofName hreducer⟩

lemma DesignViews.aligned_compileInto {declared : Fields ViewDeclaration}
    {views compiled : Table View} (h : compileInto views declared = .ok compiled)
    {known : Fields ViewDeclaration}
    (hknown : Fields.Aligned ViewDeclaration.Declares known views.entries) :
    Fields.Aligned ViewDeclaration.Declares
      (declared.foldl (fun known entry => Fields.put known entry.1 entry.2) known)
      compiled.entries := by
  induction declared generalizing views known with
  | nil =>
    cases h
    exact hknown
  | cons entry declared ih =>
    obtain ⟨view, hview, hrest⟩ := bind_eq_ok_iff.mp h
    exact ih hrest (hknown.put (View.declares_compile hview))

namespace DesignDocument.CompilesTo

variable {design : DesignDocument} {compiled : DesignViews}

lemma of_compile (h : DesignViews.compile design = .ok compiled) : design.CompilesTo compiled := by
  obtain ⟨views, hviews, hcompiled⟩ := bind_eq_ok_iff.mp h
  cases hcompiled
  exact ⟨rfl, DesignViews.aligned_compileInto hviews .nil⟩

lemma build (h : design.CompilesTo compiled) (documents : List Document) :
    design.CompilesTo (compiled.build documents) :=
  ⟨h.language, Table.aligned_mapValues h.views fun _ _ _ hview => hview⟩

lemma registerMap (h : design.CompilesTo compiled) (view : String) (map : RowMap) :
    design.CompilesTo { compiled with views := compiled.views.modify view ({ · with map }) } :=
  ⟨h.language, Table.aligned_modify h.views view fun _ _ _ hview => hview⟩

end DesignDocument.CompilesTo

/-! ### Design documents read again -/

/-- Of the fields of a design document, all but its id and its revision are its views and its
language. -/
lemma DesignDocument.ofJson_of_agree {fields other : Fields Json} {design : DesignDocument}
    {id : String} {revision : Option String} (h : ofJson (.object fields) = .ok design)
    (hid : Fields.value? other "_id" = some (.string id))
    (hrevision : Fields.value? other "_rev" = revision.map .string)
    (hviews : Fields.value? other "views" = Fields.value? fields "views")
    (hlanguage : Fields.value? other "language" = Fields.value? fields "language") :
    ofJson (.object other) = .ok { design with id, revision } := by
  simp only [ofJson, mapError_eq_ok_iff, decode, bind_eq_ok_iff] at h ⊢
  obtain ⟨record, hrecord, _, -, _, -, views, hdeclared, language, hspoken, hdesign⟩ := h
  cases hrecord
  cases hdesign
  refine ⟨_, rfl, id, ?_, revision, ?_, views, ?_, language, ?_, rfl⟩
  · rw [Decode.Record.required_string_eq_ok_iff]
    exact hid
  · simp only [Decode.Record.optional, Decode.Record.field?, hrevision]
    cases revision <;> rfl
  · rw [Decode.Record.defaulted, Decode.Record.field?, hviews]
    exact hdeclared
  · rw [Decode.Record.optional, Decode.Record.field?, hlanguage]
    exact hspoken

/-- A stored design document reads as the body that was stored, but for its revision. -/
lemma DesignDocument.ofJson_writtenDesign {fields : Fields Json} {id : String}
    {design : DesignDocument} (stamp : Stamp)
    (h : ofJson (.object (Fields.put fields "_id" (.string id))) = .ok design) :
    ofJson (Document.writtenDesign fields id stamp).toJson =
      .ok { design with revision := some (Revision.fresh stamp).text } := by
  have hvalue {key : String} (hkey : key ∉ reservedKeys) :
      Fields.value? (Document.writtenDesign fields id stamp).fields key =
        Fields.value? (Fields.put fields "_id" (.string id)) key :=
    (Document.value?_fields _ hkey).trans (Document.value?_bodyOf _ hkey)
  have hid : Fields.value? (Document.writtenDesign fields id stamp).fields "_id" =
      some (.string id) := by
    rw [Document.value?_fields_id, Document.id_writtenDesign]
  have hrevision : Fields.value? (Document.writtenDesign fields id stamp).fields "_rev" =
      (some (Revision.fresh stamp).text).map .string := rfl
  obtain rfl := (DesignDocument.of_ofJson_ok h).1
  exact ofJson_of_agree h hid hrevision (hvalue (by decide)) (hvalue (by decide))

/-! ### The invariant -/

lemma Store.designs_keepAll (store : Store) (documents : List Document) :
    (documents.foldl Store.keep store).designs = store.designs := by
  induction documents generalizing store with
  | nil => rfl
  | cons document documents ih => rw [List.foldl_cons, ih, designs_keep]

namespace Database

/-- A document is stored under an id that is its own and starts as those of design documents do, and
compiled views are those that it declares when it is read again. -/
def StoredAs (id : String) (document : Document) (compiled : DesignViews) : Prop :=
  (∃ name, id = "_design/" ++ name) ∧ document.id = id ∧
    ∃ design, DesignDocument.ofJson document.toJson = .ok design ∧ design.id = id ∧
      design.CompilesTo compiled

lemma StoredAs.build (documents : List Document) (id : String) (document : Document)
    (compiled : DesignViews) (h : StoredAs id document compiled) :
    StoredAs id document (compiled.build documents) := by
  obtain ⟨hid, hown, design, hdesign, hsame, hcompiled⟩ := h
  exact ⟨hid, hown, design, hdesign, hsame, hcompiled.build documents⟩

lemma StoredAs.registerMap (view : String) (map : RowMap) (id : String) (document : Document)
    (compiled : DesignViews) (h : StoredAs id document compiled) :
    StoredAs id document
      { compiled with views := compiled.views.modify view ({ · with map }) } := by
  obtain ⟨hid, hown, design, hdesign, hsame, hcompiled⟩ := h
  exact ⟨hid, hown, design, hdesign, hsame, hcompiled.registerMap view map⟩

/-- The stored design documents and the compiled views are in step. -/
def InStep (db : Database) : Prop :=
  Fields.Aligned StoredAs db.store.designs.entries db.views.designs.entries

namespace InStep

variable {db : Database}

/-- A rebuild of all views keeps them in step. -/
lemma rebuild (h : db.InStep) {store : Store} (hdesigns : store.designs = db.store.designs) :
    ({ db with store } : Database).rebuild.InStep := by
  have haligned := Table.aligned_mapValues h (StoredAs.build store.documents.values)
  rw [← hdesigns] at haligned
  exact haligned

lemma keep (h : db.InStep) (document : Document) : (db.keep document).InStep := by
  have hdesigns := db.store.designs_keep document
  unfold Database.keep
  split
  · rw [InStep, hdesigns]
    exact h
  · exact h.rebuild hdesigns

/-- A design document is stored together with its views. -/
lemma keepDesign (h : db.InStep) {fields : Fields Json} {given : Option String} {id : String}
    {design : DesignDocument} {views : ViewEngine} (stamp : Stamp)
    (hid : designIdFor fields given = .ok id)
    (hdesign : DesignDocument.ofJson (.object (Fields.put fields "_id" (.string id))) = .ok design)
    (hviews : db.views.addDesign design = .ok views) :
    (db.keepDesign (.writtenDesign fields id stamp) views).InStep := by
  obtain ⟨compiled, hcompiled, rfl⟩ := ViewEngine.addDesign_eq_ok_iff.mp hviews
  have hown := (DesignDocument.of_ofJson_ok hdesign).1
  have hcompiles := DesignDocument.CompilesTo.of_compile hcompiled
  -- The revision, in which the stored body differs, has no part in the views.
  have hstored : StoredAs id (.writtenDesign fields id stamp) compiled :=
    ⟨DocId.isDesign_iff.mp (isDesign_of_designIdFor hid),
      Document.id_writtenDesign fields id stamp, _,
      DesignDocument.ofJson_writtenDesign stamp hdesign, hown,
      ⟨hcompiles.language, hcompiles.views⟩⟩
  rw [InStep, Database.keepDesign, Store.keepDesign, Document.id_writtenDesign, hown]
  exact Table.aligned_modify (Fields.Aligned.put h hstored) id (StoredAs.build _)

/-- Every operation keeps the design documents and their views in step. -/
lemma performed (h : db.InStep) {operation : Operation} {answer : Except Error Answer}
    {after : Database} (hrule : Performed db operation answer after) : after.InStep := by
  cases hrule with
  | fails operation error => exact h
  | addDocument | createDocument | deleteDocument | putLocal => exact h.keep _
  | addDocuments bodies stamps hbodies => exact h.rebuild (Store.designs_keepAll db.store _)
  | addDesign fields given stamp id design views hid hdesign hviews =>
    exact h.keepDesign stamp hid hdesign hviews
  | createDesign fields given stamp id design views hfree hid hdesign hviews =>
    exact h.keepDesign stamp hid hdesign hviews
  | deleteDesign id document hdesign => exact Fields.Aligned.drop h (DocId.toDesign id)
  | registerMap design view map views hviews =>
    obtain ⟨-, rfl⟩ := ViewEngine.registerMap_eq_ok_iff.mp hviews
    exact Table.aligned_modify (Table.aligned_modify h _ (StoredAs.registerMap view map)) _
      (StoredAs.build _)
  | deleteLocal | addIndex | deleteIndex | setSecurity => exact h

end InStep

lemma Reachable.inStep {db : Database} (h : db.Reachable) : db.InStep := by
  refine Reachable.induct (motive := InStep) ?_ ?_ h
  · intro name
    exact .nil
  · intro db operation hdb
    exact hdb.performed (Performed.of_perform db operation)

/-! ### Designs and views that are there -/

lemma hasDesign_eq_isOk {db : Database} (h : db.InStep) (id : String) :
    db.hasDesign id = (db.designInfo id).isOk := by
  rw [hasDesign, Table.contains, Table.get?, h.isSome_eq, designInfo, ViewEngine.info?, Table.get?]
  cases Fields.value? db.views.designs.entries (DocId.toDesign id) <;> rfl

lemma hasView_iff {db : Database} (h : db.InStep) (id view : String) :
    db.hasView id view = true ↔
      ∃ document design, db.design? id = some document ∧
        DesignDocument.ofJson document.toJson = .ok design ∧
        view ∈ Fields.keys design.views := by
  rw [hasView, ViewEngine.hasView, ViewEngine.view?]
  constructor
  · intro hview
    obtain ⟨found, hfound⟩ := Option.isSome_iff_exists.mp hview
    obtain ⟨compiled, hcompiled, hin⟩ := Option.bind_eq_some_iff.mp hfound
    have hstored := h.isSome_eq (DocId.toDesign id)
    rw [← Table.get?, ← Table.get?, hcompiled, Option.isSome_some] at hstored
    obtain ⟨document, hdocument⟩ := Option.isSome_iff_exists.mp hstored
    obtain ⟨-, -, design, hdesign, -, hcompiles⟩ := h.related _ _ _ hdocument hcompiled
    refine ⟨document, design, hdocument, hdesign, ?_⟩
    rw [← Fields.mem_keys_ofList, hcompiles.views.keys, ← Fields.isSome_value?_iff, ← Table.get?,
      hin]
    rfl
  · rintro ⟨document, design, hdocument, hdesign, hdeclared⟩
    obtain ⟨compiled, hcompiled, -, -, read, hread, -, hcompiles⟩ := h.exists_of_left hdocument
    obtain rfl : read = design := Except.ok.inj (hread.symm.trans hdesign)
    rw [← Fields.mem_keys_ofList, hcompiles.views.keys, ← Fields.isSome_value?_iff] at hdeclared
    rw [Table.get?, hcompiled, Option.bind_some]
    exact hdeclared

/-- In a reachable database the design documents in the store and the designs with compiled views
have the same ids in the same order, and all of them start with `_design/`. Each stored document,
read again, declares exactly the compiled views. So there is information on a design exactly where
a document is stored, and a view exactly where the stored document declares it. -/
theorem designs_declared {db : Database} (hdb : db.Reachable) :
    db.store.designs.keys = db.views.designs.keys ∧
      (∀ id document, db.store.designs.get? id = some document →
        ∃ design compiled, (∃ name, id = "_design/" ++ name) ∧ document.id = id ∧
          DesignDocument.ofJson document.toJson = .ok design ∧ design.id = id ∧
          db.views.designs.get? id = some compiled ∧ design.CompilesTo compiled) ∧
      (∀ id, db.hasDesign id = (db.designInfo id).isOk) ∧
      ∀ id view, db.hasView id view = true ↔
        ∃ document design, db.design? id = some document ∧
          DesignDocument.ofJson document.toJson = .ok design ∧
          view ∈ Fields.keys design.views := by
  have h := hdb.inStep
  refine ⟨h.keys, fun id document hdocument => ?_, hasDesign_eq_isOk h, hasView_iff h⟩
  obtain ⟨compiled, hcompiled, hid, hown, design, hdesign, hsame, hcompiles⟩ :=
    h.exists_of_left hdocument
  exact ⟨design, compiled, hid, hown, hdesign, hsame, hcompiled, hcompiles⟩

/-- A design document that was overwritten, and then by a version that does not compile, with a map
function registered for one of its views, and beside one that was removed. One view counts and one
sums. -/
theorem designs_declared_overwritten :
    let view (reduce : String) := Json.object
      [("map", .string "doc => emit(doc.n, 1)"), ("reduce", .string reduce)]
    let design (views : List (String × Json)) := Json.object
      [("_rev", .null), ("views", .object views), ("language", .string "js")]
    let stamp : Stamp := ⟨⟨0⟩, ⟨1⟩⟩
    let db := (new "db").after
      [.addDesign (design [("total", view "_sum")]) (some "numbers") stamp,
       .addDesign (design []) (some "other") stamp,
       .addDesign (design [("number", view "_count"), ("total", view "_sum")]) (some "numbers")
        stamp,
       .addDesign (design [("median", view "_median")]) (some "numbers") stamp,
       .registerMap "numbers" "total" fun _ => [], .deleteDesign "other"]
    db.Reachable ∧ ∃ document, db.store.designs.get? "_design/numbers" = some document ∧
      ∃ design compiled, (∃ name, "_design/numbers" = "_design/" ++ name) ∧
        document.id = "_design/numbers" ∧ DesignDocument.ofJson document.toJson = .ok design ∧
        design.id = "_design/numbers" ∧
        db.views.designs.get? "_design/numbers" = some compiled ∧ design.CompilesTo compiled ∧
        compiled.language = "js" ∧ compiled.views.keys = ["number", "total"] ∧
        compiled.views.values.map View.reducer = [some .count, some .sum] := by
  intro view design stamp db
  have hdb : db.Reachable := ⟨_, _, rfl⟩
  have hstored : (db.store.designs.get? "_design/numbers").isSome = true := by decide +kernel
  have hshown : ∀ compiled ∈ db.views.designs.get? "_design/numbers",
      compiled.language = "js" ∧ compiled.views.keys = ["number", "total"] ∧
        compiled.views.values.map View.reducer = [some .count, some .sum] := by
    decide +kernel
  obtain ⟨document, hdocument⟩ := Option.isSome_iff_exists.mp hstored
  obtain ⟨read, compiled, hid, hown, hread, hsame, hcompiled, hcompiles⟩ :=
    (designs_declared hdb).2.1 _ document hdocument
  exact ⟨hdb, document, hdocument, read, compiled, hid, hown, hread, hsame, hcompiled, hcompiles,
    hshown compiled hcompiled⟩

end Database

end DocumentDb
