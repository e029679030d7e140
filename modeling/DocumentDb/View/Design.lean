import DocumentDb.Error

/-!
# Design documents

What the views need of a design document: the declared views with the sources of their map functions
and the names of their reducers, and the language.
-/

namespace DocumentDb

/-- A declared view: the source of its map function and the name of its reducer. -/
structure ViewDeclaration where
  map : String
  reduce : Option String
deriving DecidableEq

namespace ViewDeclaration

/-- The declaration in a value. -/
def decode (value : Json) : Decoded ViewDeclaration := do
  let record ← Decode.Record.ofJson "a view" 2 value
  let map ← record.required 0 "map" Decode.string
  let reduce ← record.optional 1 "reduce" Decode.string
  return ⟨map, reduce⟩

/-- The declaration in JSON. -/
def toJson (view : ViewDeclaration) : Json :=
  .object <| ("map", .string view.map) ::
    (view.reduce.map fun reduce => ("reduce", Json.string reduce)).toList

end ViewDeclaration

/-- A design document, as far as its views go. -/
structure DesignDocument where
  id : String
  revision : Option String
  views : Fields ViewDeclaration
  declaredLanguage : Option String

namespace DesignDocument

/-- The design document in a value. -/
def decode (value : Json) : Decoded DesignDocument := do
  let record ← Decode.Record.ofJson "a design document" 4 value
  let id ← record.required 0 "_id" Decode.string
  let revision ← record.optional 1 "_rev" Decode.string
  let views ← record.defaulted 2 "views" [] (Decode.fields ViewDeclaration.decode)
  let language ← record.optional 3 "language" Decode.string
  return ⟨id, revision, views, language⟩

/-- The design document in a value, or the error that refuses it. -/
def ofJson (value : Json) : Except Error DesignDocument := (decode value).mapError .invalidDesign

/-- The name: the id without its start. -/
def name (design : DesignDocument) : String := DocId.designName design.id

/-- The language, by default JavaScript. -/
def language (design : DesignDocument) : String := design.declaredLanguage.getD "javascript"

/-- The design document in JSON. -/
def toJson (design : DesignDocument) : Json :=
  .object <|
    ("_id", .string design.id) ::
      (design.revision.map fun revision => ("_rev", Json.string revision)).toList ++
      ("views", .object (design.views.map fun view => (view.1, view.2.toJson))) ::
      (design.declaredLanguage.map fun language => ("language", Json.string language)).toList

end DesignDocument

end DocumentDb
