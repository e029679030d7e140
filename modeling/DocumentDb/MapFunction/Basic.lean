import DocumentDb.MapFunction.Parser
import DocumentDb.MapFunction.Eval

/-!
# Map functions

A map function is compiled from its source and called with a document; a call answers with the rows
that the function emits.
-/

namespace DocumentDb

namespace MapFunction

/-- What makes a source no map function. -/
inductive CompileError
  | lexical (error : LexicalError)
  | grammar (error : GrammarError)
deriving DecidableEq

/-- The wording of the error. -/
def CompileError.message : CompileError → String
  | lexical error => error.message
  | grammar error => error.message

end MapFunction

/-- A compiled map function. -/
structure MapFunction where
  source : String
  parameter : String
  body : List MapFunction.Stmt

namespace MapFunction

/-- Compile a source. -/
def compile (source : String) : Except CompileError MapFunction :=
  match Token.scan source.toList with
  | .error e => .error (.lexical e)
  | .ok tokens =>
    match program tokens with
    | .error e => .error (.grammar e)
    | .ok (parameter, body) => .ok ⟨source, parameter, body⟩

/-- The keys and values that the function emits for a document, in order. -/
def call (function : MapFunction) (document : Json) : List (Json × Json) :=
  bodyRows document function.body

end MapFunction

end DocumentDb
