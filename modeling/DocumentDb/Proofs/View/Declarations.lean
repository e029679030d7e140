import DocumentDb.Proofs.View.Engine

/-!
# Declared views and their programs

A design document declares a view by the source of a map function and, where there is a reducer, by
its name. Here both are read off the body of the document as it is in JSON, apart from how a design
document is decoded and compiled: `ViewPrograms.declaredIn` is the program that a body declares
under a name. The views of a design document that is accepted are those of the declared programs.
-/

namespace DocumentDb

/-! ### The program of a view -/

/-- What a view computes: its map function, and the name of its reducer where it has one. -/
structure ViewProgram where
  reduce : Option String
  map : RowMap

namespace ViewProgram

/-- The reducer of the name. -/
def reducer (program : ViewProgram) : Option Reducer :=
  match program.reduce with
  | some "_count" => some .count
  | some "_sum" => some .sum
  | _ => none

/-- The rows for documents: what the map function emits for each of them, in order. -/
def rows (program : ViewProgram) (documents : List Document) : List ViewRow :=
  documents.flatMap fun document =>
    (program.map document.toJson).map fun emitted =>
      { id := document.id, key := emitted.1, value := emitted.2, document := some document.toJson }

/-- Add to a total, staying within the signed 64-bit integers. -/
def addWithin (total share : Int) : Int :=
  max (-0x8000000000000000) (min 0x7FFFFFFFFFFFFFFF (total + share))

/-- The total of rows: their number, or the sum of their values read as integers, which is kept
within the signed 64-bit integers after each row. -/
def total (program : ViewProgram) (rows : List ViewRow) : Int :=
  match program.reduce with
  | some "_count" => rows.length
  | some "_sum" => rows.foldl (fun total row => addWithin total row.value.toInt) 0
  | _ => 0

/-- The view of a name over documents. -/
def viewOver (program : ViewProgram) (name : String) (documents : List Document) : View where
  name := name
  reducer := program.reducer
  map := program.map
  rows := program.rows documents
  total := program.total (program.rows documents)

lemma total_reducer (program : ViewProgram) (rows : List ViewRow) :
    Reducer.total program.reducer rows = program.total rows := by
  unfold reducer total
  split <;> rfl

/-- A view with the map function and the reducer of a program is built to be the view of the
program, whatever rows it had. -/
lemma build_eq_viewOver {program : ViewProgram} {view : View}
    (hreducer : view.reducer = program.reducer) (hmap : view.map = program.map)
    (documents : List Document) :
    view.build documents = program.viewOver view.name (documents.filter View.looksAt) := by
  obtain ⟨name, reducer, map, rows, total⟩ := view
  cases hreducer
  cases hmap
  simp only [View.build, viewOver, ← total_reducer]
  rfl

/-! ### Programs that are declared -/

/-- The program of a declared view: `map` is the source of the map function, and `reduce` names the
reducer where it is a string. -/
def ofJson? (view : Json) : Option ViewProgram := do
  let source ← (view.part? "map" 0).bind Json.string?
  let function ← (MapFunction.compile source).toOption
  return { reduce := (view.part? "reduce" 1).bind Json.string?, map := function.call }

end ViewProgram

/-- The programs of views, by the id of the design document and the name of the view. -/
abbrev ViewPrograms := String → String → Option ViewProgram

namespace ViewPrograms

/-- The views in the body of a design document. -/
def viewsIn (body : Json) : Fields Json :=
  match body.field? "views" with
  | some (.object views) => views
  | _ => []

/-- The programs that the body of a design document declares, by the name of the view; the last
declaration of a name counts. -/
def declaredIn (body : Json) (name : String) : Option ViewProgram :=
  (Fields.value? (Fields.ofList (viewsIn body)) name).bind ViewProgram.ofJson?

end ViewPrograms

/-! ### Accepted design documents -/

/-- The name of a reducer is the one that it was found by. -/
lemma Reducer.map_name_of_ofName {reduce : Option String} {reducer : Option Reducer}
    (h : ofName reduce = .ok reducer) : reducer.map name = reduce := by
  unfold ofName at h
  split at h <;> cases h <;> rfl

namespace ViewProgram

/-- A program with the name of a reducer has that reducer. -/
lemma reducer_map_name (reducer : Option Reducer) (map : RowMap) :
    (mk (reducer.map Reducer.name) map).reducer = reducer := by
  cases reducer with
  | none => rfl
  | some reducer => cases reducer <;> rfl

/-- A declared view compiles to the view of its program, and the program names no other reducers
than there are. -/
lemma exists_of_compile {value : Json} {name : String} {declaration : ViewDeclaration} {view : View}
    (hdeclaration : ViewDeclaration.decode value = .ok declaration)
    (hview : View.compile name declaration = .ok view) :
    ∃ program, ofJson? value = some program ∧
      view = .ofMap name program.reducer program.map ∧
      program.reducer.map Reducer.name = program.reduce := by
  obtain ⟨record, hrecord, hrest⟩ := bind_eq_ok_iff.mp hdeclaration
  obtain ⟨source, hsource, hrest⟩ := bind_eq_ok_iff.mp hrest
  obtain ⟨reduce, hreduce, hdeclared⟩ := bind_eq_ok_iff.mp hrest
  cases hdeclared
  obtain ⟨reducer, hreducer, hrest⟩ := bind_eq_ok_iff.mp hview
  obtain ⟨function, hfunction, hcompiled⟩ := bind_eq_ok_iff.mp hrest
  cases hcompiled
  obtain rfl : reducer.map Reducer.name = reduce := Reducer.map_name_of_ofName hreducer
  rw [mapError_eq_ok_iff] at hfunction
  rw [Decode.Record.required_string_eq_ok_iff, Decode.Record.field?_eq_part? hrecord] at hsource
  have hname := Decode.Record.eq_of_optional_string hreduce
  rw [Decode.Record.field?_eq_part? hrecord] at hname
  refine ⟨⟨reducer.map Reducer.name, function.call⟩, ?_, ?_, ?_⟩
  · simp only [ofJson?, hsource, hname, hfunction, Option.bind_some, Json.string?,
      Except.toOption, bind, pure]
  · rw [reducer_map_name]
  · rw [reducer_map_name]

end ViewProgram

/-- An accepted design document has the id that it is given and the views that its body has. -/
lemma DesignDocument.of_ofJson_ok {fields : Fields Json} {id : String} {design : DesignDocument}
    (h : DesignDocument.ofJson (.object (Fields.put fields "_id" (.string id))) = .ok design) :
    design.id = id ∧
      Decode.fields ViewDeclaration.decode (.object (ViewPrograms.viewsIn (.object fields))) =
        .ok design.views := by
  simp only [ofJson, mapError_eq_ok_iff, decode, bind_eq_ok_iff] at h
  obtain ⟨record, hrecord, own, hown, revision, -, views, hviews, language, -, hdesign⟩ := h
  cases hrecord
  cases hdesign
  constructor
  · rw [Decode.Record.required_string_eq_ok_iff, Decode.Record.field?, Fields.value?_put,
      if_pos rfl] at hown
    cases hown
    rfl
  · have hkey : ("views" : String) ≠ "_id" := by decide
    rw [Decode.Record.defaulted, Decode.Record.field?, Fields.value?_put, if_neg hkey] at hviews
    rw [ViewPrograms.viewsIn, Json.field?]
    cases hvalue : Fields.value? fields "views" with
    | none =>
      rw [hvalue] at hviews
      cases hviews
      rfl
    | some value =>
      rw [hvalue] at hviews
      cases value with
      | object members => exact hviews
      | _ => cases hviews

/-- The views of an accepted design document are those of the programs that its body declares, and
these name no other reducers than there are. -/
lemma ViewEngine.view?_addDesign {engine after : ViewEngine} {design : DesignDocument}
    {fields : Fields Json} {id : String}
    (hdesign : DesignDocument.ofJson (.object (Fields.put fields "_id" (.string id))) = .ok design)
    (h : engine.addDesign design = .ok after) (name : String) :
    after.view? id name =
        ((ViewPrograms.declaredIn (.object fields) name).map fun program =>
          .ofMap name program.reducer program.map) ∧
      ∀ program, ViewPrograms.declaredIn (.object fields) name = some program →
        program.reducer.map Reducer.name = program.reduce := by
  obtain ⟨rfl, hviews⟩ := DesignDocument.of_ofJson_ok hdesign
  have hdecoded := Decode.rel_value?_fields hviews name
  have hcompiled := compiled_addDesign h name
  rw [Compiled] at hcompiled
  rw [ViewPrograms.declaredIn]
  generalize Fields.value? (Fields.ofList (ViewPrograms.viewsIn (.object fields))) name = value?
    at hdecoded ⊢
  generalize Fields.value? (Fields.ofList design.views) name = declaration? at hdecoded hcompiled
  generalize after.view? design.id name = view? at hcompiled ⊢
  cases hdecoded with
  | none =>
    cases hcompiled
    exact ⟨rfl, nofun⟩
  | some hdecoded =>
    cases hcompiled with
    | some hview =>
      obtain ⟨program, hprogram, rfl, hname⟩ := ViewProgram.exists_of_compile hdecoded hview
      rw [Option.bind_some, hprogram]
      refine ⟨rfl, ?_⟩
      rintro _ ⟨⟩
      exact hname

end DocumentDb
