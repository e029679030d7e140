import DocumentDb.Document.Id
import DocumentDb.Json.Decode
import DocumentDb.MapFunction.Basic
import DocumentDb.Selector.Parser

/-!
# Errors of the database

Why an operation failed. Every cause belongs to a kind, and has a detail that says what it is about;
the full message puts the kind in front.
-/

namespace DocumentDb

/-- The kinds of error. -/
inductive ErrorKind
  | notFound
  | conflict
  | databaseExists
  | badSelector
  | invalidMapFunction
  | badRequest
  | unauthorized
  | malformed
deriving DecidableEq

/-- Why an operation failed. -/
inductive Error
  | missingDatabase (name : String)
  | missingDocument (id : String)
  | missingLocal (id : String)
  | missingDesign (id : String)
  | missingView (name : String)
  | undeclaredView (design view : String)
  | documentExists (id : String)
  | designExists (id : String)
  | databaseExists (name : String)
  | selector (cause : SelectorError)
  | mapFunction (cause : MapFunction.CompileError)
  | documentNotObject
  | documentNotObjectAt (position : Nat)
  | designNotObject
  | designWithoutId
  | designIdMisnamed
  | invalidDesign (cause : DecodeError)
  | unsupportedReduce (name : String)
  | securityNotObject
  | unauthorized
  | malformed (cause : DecodeError)
deriving DecidableEq

namespace Error

/-- The kind of an error. -/
def kind : Error → ErrorKind
  | missingDatabase _ | missingDocument _ | missingLocal _ | missingDesign _ | missingView _
  | undeclaredView _ _ => .notFound
  | documentExists _ | designExists _ => .conflict
  | databaseExists _ => .databaseExists
  | selector _ => .badSelector
  | mapFunction _ => .invalidMapFunction
  | documentNotObject | documentNotObjectAt _ | designNotObject | designWithoutId | designIdMisnamed
  | invalidDesign _ | unsupportedReduce _ | securityNotObject => .badRequest
  | unauthorized => .unauthorized
  | malformed _ => .malformed

/-- What the error is about. -/
def detail : Error → String
  | missingDatabase name => "Database " ++ name ++ " does not exist."
  | missingDocument id => "missing document " ++ id
  | missingLocal id => "missing local document " ++ id
  | missingDesign id => "missing design document " ++ id
  | missingView name => "missing named view " ++ name
  | undeclaredView design view => design ++ "/_view/" ++ view
  | documentExists id => "Document " ++ id ++ " already exists."
  | designExists id => "Design document " ++ id ++ " already exists."
  | databaseExists name => name
  | selector cause => cause.message
  | mapFunction cause => cause.message
  | documentNotObject => "document must be a JSON object"
  | documentNotObjectAt position =>
    "document at position " ++ toString position ++ " must be a JSON object"
  | designNotObject => "design document must be a JSON object"
  | designWithoutId => "design document requires an _id"
  | designIdMisnamed => "design document id must start with " ++ DocId.designStart
  | invalidDesign _ => "invalid design doc"
  | unsupportedReduce name => "unsupported reduce function: " ++ name
  | securityNotObject => "security object must be a JSON object"
  | unauthorized => ""
  | malformed cause => cause.message

/-- The message: the kind, and what the error is about. -/
def message (error : Error) : String :=
  match error.kind with
  | .notFound => "not found: " ++ error.detail
  | .conflict => "conflict: " ++ error.detail
  | .databaseExists => "database already exists: " ++ error.detail
  | .badSelector => "invalid selector: " ++ error.detail
  | .invalidMapFunction => "invalid map function: " ++ error.detail
  | .badRequest => "bad request: " ++ error.detail
  | .unauthorized => "unauthorized"
  | .malformed => "json error: " ++ error.detail

end Error

end DocumentDb
