import DocumentDb.Text.Basic

/-!
# Runs of characters

Runs are how the tables of character properties are written down: `41-5a` holds the capital letters
of ASCII, and `100-12e/2` every second character between its ends. Characters are given by their
code points.
-/

namespace DocumentDb.Pattern

/-- The characters from a first to a last one. -/
structure Span where
  first : Nat
  last : Nat
deriving DecidableEq

/-- Whether a code point is in the span. -/
def Span.contains (span : Span) (n : Nat) : Bool := span.first ≤ n && n ≤ span.last

/-- The characters from `first` to `last` in steps of `stride`. -/
structure Run where
  first : Nat
  last : Nat
  stride : Nat
deriving DecidableEq

namespace Run

/-- Whether a code point is in the run. -/
def contains (run : Run) (n : Nat) : Bool :=
  run.first ≤ n && n ≤ run.last && (n - run.first) % run.stride == 0

/-- The code points in the run. -/
def points (run : Run) : List Nat :=
  (List.range ((run.last - run.first) / run.stride + 1)).map (run.first + run.stride * ·)

/-- The spans that make up the run. -/
def spans (run : Run) : List Span :=
  if run.stride = 1 then [⟨run.first, run.last⟩] else run.points.map fun n => ⟨n, n⟩

/-- The run between two code points in hexadecimal; without an end it holds one character. -/
def readEnds? (text : String) (stride : Nat) : Option Run :=
  match Text.split '-' text with
  | [single] => (Text.digits? 16 0 single.toList).map fun n => ⟨n, n, stride⟩
  | [first, last] =>
    (Text.digits? 16 0 first.toList).bind fun first =>
      (Text.digits? 16 0 last.toList).map fun last => ⟨first, last, stride⟩
  | _ => none

/-- The run that a word stands for. -/
def read? (word : String) : Option Run :=
  match Text.split '/' word with
  | [ends] => readEnds? ends 1
  | [ends, stride] => (Text.natural? stride).bind fun stride => readEnds? ends stride
  | _ => none

/-- The runs in lines of words. -/
def readLines (lines : List String) : List Run :=
  lines.flatMap fun line => (Text.split ' ' line).filterMap read?

end Run

end DocumentDb.Pattern
