import DocumentDb.View.Engine
import DocumentDb.Proofs.Json.Decode

/-!
# Views after changes of the engine

Which view stands under the id of a design document and a name, after each way of changing the views
of a database.
-/

namespace DocumentDb.ViewEngine

lemma view?_rebuildAll (engine : ViewEngine) (documents : List Document) (id name : String) :
    (engine.rebuildAll documents).view? id name =
      (engine.view? id name).map (View.build documents) := by
  simp only [view?, rebuildAll, Table.get?_mapValues]
  cases engine.designs.get? id with
  | none => rfl
  | some design => exact Table.get?_mapValues design.views _ name

lemma view?_rebuild (engine : ViewEngine) (built : String) (documents : List Document)
    (id name : String) :
    (engine.rebuild built documents).view? id name =
      if id = built then (engine.view? id name).map (View.build documents)
      else engine.view? id name := by
  simp only [view?, rebuild, Table.get?_modify]
  split
  · cases engine.designs.get? id with
    | none => rfl
    | some design => exact Table.get?_mapValues design.views _ name
  · rfl

lemma view?_removeDesign (engine : ViewEngine) (removed id name : String) :
    (engine.removeDesign removed).view? id name =
      if id = removed then none else engine.view? id name := by
  simp only [view?, removeDesign, Table.get?_erase]
  split <;> rfl

/-- Registering a design document puts its compiled views in the place of earlier ones. -/
lemma addDesign_eq_ok_iff {engine after : ViewEngine} {design : DesignDocument} :
    engine.addDesign design = .ok after ↔
      ∃ compiled, DesignViews.compile design = .ok compiled ∧
        after = ⟨engine.designs.insert design.id compiled⟩ := by
  rw [addDesign, bind_eq_ok_iff]
  refine exists_congr fun compiled => and_congr_right fun _ => ?_
  change Except.ok _ = Except.ok after ↔ _
  rw [Except.ok.injEq, eq_comm]

/-- Registering a map function changes a declared view and nothing else. -/
lemma registerMap_eq_ok_iff {engine after : ViewEngine} {id view : String} {map : RowMap} :
    engine.registerMap id view map = .ok after ↔
      engine.hasView id view = true ∧
        after = ⟨engine.designs.modify id fun design =>
          { design with views := design.views.modify view ({ · with map }) }⟩ := by
  rw [registerMap]
  split
  · rename_i hview
    simp [hview, eq_comm]
  · rename_i hview
    simp [hview]

lemma view?_registerMap {engine after : ViewEngine} {design view : String} {map : RowMap}
    (h : engine.registerMap design view map = .ok after) (id name : String) :
    after.view? id name =
      if id = design ∧ name = view then (engine.view? id name).map ({ · with map })
      else engine.view? id name := by
  obtain ⟨-, rfl⟩ := registerMap_eq_ok_iff.mp h
  simp only [view?, Table.get?_modify]
  by_cases hid : id = design
  · cases hget : engine.designs.get? id with
    | none => simp [hid]
    | some found => simp [hid, Table.get?_modify]
  · simp [hid]

/-- A declaration compiles to the view of a name, or there is neither. -/
def Compiled (name : String) : Option ViewDeclaration → Option View → Prop :=
  Option.Rel fun declaration view => View.compile name declaration = .ok view

/-- The views that declarations compile to; the last declaration of a name counts. -/
lemma compiled_compileInto {declared : Fields ViewDeclaration} {views compiled : Table View}
    (h : DesignViews.compileInto views declared = .ok compiled) {known : Fields ViewDeclaration}
    (hknown : ∀ name, Compiled name (Fields.value? known name) (views.get? name)) (name : String) :
    Compiled name
      (Fields.value? (declared.foldl (fun known entry => Fields.put known entry.1 entry.2) known)
        name)
      (compiled.get? name) := by
  induction declared generalizing views known with
  | nil =>
    cases h
    exact hknown name
  | cons entry declared ih =>
    obtain ⟨added, declaration⟩ := entry
    obtain ⟨view, hview, hrest⟩ := bind_eq_ok_iff.mp h
    refine ih hrest fun other => ?_
    rw [Table.get?_insert, Fields.value?_put]
    split
    · rename_i hother
      exact .some (hother ▸ hview)
    · exact hknown other

/-- The views of a design document that is added are those that it declares. -/
lemma compiled_addDesign {engine after : ViewEngine} {design : DesignDocument}
    (h : engine.addDesign design = .ok after) (name : String) :
    Compiled name (Fields.value? (Fields.ofList design.views) name)
      (after.view? design.id name) := by
  obtain ⟨compiled, hcompiled, rfl⟩ := addDesign_eq_ok_iff.mp h
  obtain ⟨views, hviews, hdesign⟩ := bind_eq_ok_iff.mp hcompiled
  cases hdesign
  rw [view?, Table.get?_insert, if_pos rfl, Option.bind_some]
  have hempty (other : String) : Compiled other
      (Fields.value? ([] : Fields ViewDeclaration) other) ((.empty : Table View).get? other) :=
    .none
  exact compiled_compileInto hviews hempty name

/-- Adding a design document leaves the views of others. -/
lemma view?_addDesign_of_ne {engine after : ViewEngine} {design : DesignDocument}
    (h : engine.addDesign design = .ok after) {id : String} (hid : id ≠ design.id)
    (name : String) : after.view? id name = engine.view? id name := by
  obtain ⟨compiled, -, rfl⟩ := addDesign_eq_ok_iff.mp h
  rw [view?, view?, Table.get?_insert, if_neg hid]

end DocumentDb.ViewEngine
