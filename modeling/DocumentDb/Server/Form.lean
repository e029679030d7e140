import DocumentDb.Text.Basic
import DocumentDb.Text.Utf8

/-!
# Percent encoding and forms

A percent sign and two hexadecimal digits stand for a byte. The segments of a path are decoded
strictly. A form is a list of names and values; in it a plus sign stands for a blank, and malformed
bytes are replaced.
-/

namespace DocumentDb.Server

/-- The bytes of a text in which escapes stand for bytes; a percent sign without digits stands for
itself. -/
def percentDecode : List Char → List Utf8.Byte
  | '%' :: a :: b :: rest =>
    match Text.digits? 16 0 [a, b] with
    | some byte => byte :: percentDecode rest
    | none => Utf8.encode ['%'] ++ percentDecode (a :: b :: rest)
  | c :: rest => Utf8.encode [c] ++ percentDecode rest
  | [] => []

/-- The segment of a path, where its bytes are well formed. -/
def decodeSegment? (segment : String) : Option String := Utf8.decode? (percentDecode segment.toList)

namespace Form

/-- A name or a value of a form. -/
def decodePart (part : List Char) : String :=
  Utf8.decodeLossy (percentDecode (part.map fun c => if c = '+' then ' ' else c))

/-- The names and values of a form, in order. -/
def pairs (text : String) : List (String × String) :=
  ((Text.splitChars '&' text.toList).filter (!·.isEmpty)).map fun part =>
    match Text.cut? '=' part with
    | some (name, value) => (decodePart name, decodePart value)
    | none => (decodePart part, "")

/-- The value of a name that may come once at most; nothing where it comes again. -/
def single? (pairs : List (String × String)) (name : String) : Option (Option String) :=
  match pairs.filter (·.1 = name) with
  | [] => some none
  | [(_, value)] => some (some value)
  | _ => none

end Form

end DocumentDb.Server
