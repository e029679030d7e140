import DocumentDb.Document.Basic
import DocumentDb.Table
import DocumentDb.View.Design
import DocumentDb.View.Reducer

/-!
# Views of design documents

A view holds the rows that its map function emits for the live documents, and their total. The views
of a design document are compiled together, and rebuilt as a whole from the documents.
-/

namespace DocumentDb

/-! ### One view -/

/-- A map function: the keys and values that it emits for a document. -/
abbrev RowMap := Json → List (Json × Json)

/-- A view with its rows and their total. -/
structure View where
  name : String
  reducer : Option Reducer
  map : RowMap
  rows : List ViewRow
  total : Int

namespace View

/-- A view that has not been built. -/
def ofMap (name : String) (reducer : Option Reducer) (map : RowMap) : View :=
  ⟨name, reducer, map, [], 0⟩

/-- The view that a declaration compiles to. -/
def compile (name : String) (declaration : ViewDeclaration) : Except Error View := do
  let reducer ← Reducer.ofName declaration.reduce
  let function ← (MapFunction.compile declaration.map).mapError .mapFunction
  return ofMap name reducer function.call

/-- The rows that a map function emits for a document. -/
def rowsOf (map : RowMap) (document : Document) : List ViewRow :=
  (map document.toJson).map fun emitted =>
    ⟨document.id, emitted.1, emitted.2, some document.toJson⟩

/-- Whether a view looks at a document: neither at tombstones nor at local documents. -/
def looksAt (document : Document) : Bool := !document.deleted && !document.isLocal

/-- Build the rows and the total from the documents. -/
def build (documents : List Document) (view : View) : View :=
  let rows := (documents.filter looksAt).flatMap (rowsOf view.map)
  { view with rows, total := Reducer.total view.reducer rows }

/-- Query a view: its totals where it has a reducer and the query does not turn it off, else a page
of its rows. -/
def query (view : View) (query : ViewQuery) : ViewResult :=
  match view.reducer with
  | some reducer =>
    if query.reduce then
      .reduced (if query.group then reducer.totals view.rows else [(.null, view.total)])
    else query.paginate view.rows
  | none => query.paginate view.rows

end View

/-! ### The views of a design document -/

/-- The views of a design document. -/
structure DesignViews where
  language : String
  views : Table View

namespace DesignViews

/-- Compile declared views one after the other; the first that fails is reported. -/
def compileInto (views : Table View) : Fields ViewDeclaration → Except Error (Table View)
  | [] => .ok views
  | (name, declaration) :: declared => do
    let view ← View.compile name declaration
    compileInto (views.insert name view) declared

/-- Compile the views of a design document. -/
def compile (design : DesignDocument) : Except Error DesignViews := do
  let views ← compileInto .empty design.views
  return ⟨design.language, views⟩

/-- Build every view from the documents. -/
def build (documents : List Document) (design : DesignViews) : DesignViews :=
  { design with views := design.views.mapValues (View.build documents) }

end DesignViews

/-- What is reported of a design document: its name, its language and the number of its views. -/
structure DesignInfo where
  name : String
  language : String
  views : Nat

/-- The report in JSON; nothing is ever under way. -/
def DesignInfo.toJson (info : DesignInfo) : Json :=
  .object
    [("name", .string info.name),
     ("view_index", .object
       [("language", .string info.language), ("views", .nat info.views),
        ("updater_running", .bool false), ("compact_running", .bool false),
        ("waiting_clients", .nat 0), ("waiting_commit", .bool false)])]

/-! ### All views of a database -/

/-- The views of all design documents, by id. -/
structure ViewEngine where
  designs : Table DesignViews

namespace ViewEngine

/-- No views. -/
def empty : ViewEngine := ⟨.empty⟩

/-- Register a design document in place of an earlier version. Its views are not built yet. Nothing
is registered where one of them fails to compile. -/
def addDesign (engine : ViewEngine) (design : DesignDocument) : Except Error ViewEngine := do
  let views ← DesignViews.compile design
  return ⟨engine.designs.insert design.id views⟩

/-- Forget a design document and its views. -/
def removeDesign (engine : ViewEngine) (id : String) : ViewEngine := ⟨engine.designs.erase id⟩

/-- Whether a design document is registered. -/
def hasDesign (engine : ViewEngine) (id : String) : Bool := engine.designs.contains id

/-- A view of a design document. -/
def view? (engine : ViewEngine) (id view : String) : Option View :=
  (engine.designs.get? id).bind fun design => design.views.get? view

/-- Whether a design document declares a view. -/
def hasView (engine : ViewEngine) (id view : String) : Bool := (engine.view? id view).isSome

/-- Give a declared view another map function, which its rows do not show before they are rebuilt.
-/
def registerMap (engine : ViewEngine) (id view : String) (map : RowMap) : Except Error ViewEngine :=
  if engine.hasView id view then
    .ok ⟨engine.designs.modify id fun design =>
      { design with views := design.views.modify view fun view => { view with map } }⟩
  else .error (.undeclaredView id view)

/-- Rebuild the views of one design document. -/
def rebuild (engine : ViewEngine) (id : String) (documents : List Document) : ViewEngine :=
  ⟨engine.designs.modify id (DesignViews.build documents)⟩

/-- Rebuild all views. -/
def rebuildAll (engine : ViewEngine) (documents : List Document) : ViewEngine :=
  ⟨engine.designs.mapValues (DesignViews.build documents)⟩

/-- Query a view as it was last built. -/
def query (engine : ViewEngine) (id view : String) (query : ViewQuery) : Except Error ViewResult :=
  match engine.designs.get? id with
  | none => .error (.missingDesign id)
  | some design =>
    match design.views.get? view with
    | none => .error (.missingView view)
    | some view => .ok (view.query query)

/-- What is reported of a registered design document. -/
def info? (engine : ViewEngine) (id : String) : Option DesignInfo :=
  (engine.designs.get? id).map fun design =>
    ⟨DocId.designName id, design.language, design.views.size⟩

end ViewEngine

end DocumentDb
