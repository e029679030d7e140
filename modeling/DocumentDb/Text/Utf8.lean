/-!
# UTF-8

Characters as bytes and back. Decoding goes through the bytes once; where they are malformed it
answers with nothing in place of a character and goes on after the longest part that could still
have started one.
-/

namespace DocumentDb.Utf8

/-- A byte. -/
abbrev Byte := Nat

/-- The bytes of characters. -/
def encode (cs : List Char) : List Byte :=
  cs.flatMap fun c => (String.utf8EncodeChar c).map UInt8.toNat

/-- A character whose bytes are not all read: the bits so far, how many bytes are left, and the
bounds of the next one. -/
structure Pending where
  bits : Nat
  left : Nat
  low : Byte
  high : Byte

/-- What a first byte starts: a character of its own, a longer one, or nothing. -/
def start (byte : Byte) : List (Option Char) × Option Pending :=
  if byte < 0x80 then ([some (Char.ofNat byte)], none)
  else if byte < 0xC2 then ([none], none)
  else if byte < 0xE0 then ([], some ⟨byte - 0xC0, 1, 0x80, 0xBF⟩)
  else if byte < 0xF0 then
    let low := if byte = 0xE0 then 0xA0 else 0x80
    let high := if byte = 0xED then 0x9F else 0xBF
    ([], some ⟨byte - 0xE0, 2, low, high⟩)
  else if byte < 0xF5 then
    let low := if byte = 0xF0 then 0x90 else 0x80
    let high := if byte = 0xF4 then 0x8F else 0xBF
    ([], some ⟨byte - 0xF0, 3, low, high⟩)
  else ([none], none)

/-- Decode bytes, the first of which may belong to a character already begun. -/
def decodeFrom : Option Pending → List Byte → List (Option Char)
  | none, [] => []
  | some _, [] => [none]
  | none, byte :: bytes =>
    let (read, pending) := start byte
    read ++ decodeFrom pending bytes
  | some pending, byte :: bytes =>
    if pending.low ≤ byte && byte ≤ pending.high then
      let bits := pending.bits * 64 + (byte - 0x80)
      if pending.left = 1 then some (Char.ofNat bits) :: decodeFrom none bytes
      else decodeFrom (some ⟨bits, pending.left - 1, 0x80, 0xBF⟩) bytes
    else
      let (read, pending) := start byte
      none :: (read ++ decodeFrom pending bytes)

/-- The characters of bytes that are well formed. -/
def decode? (bytes : List Byte) : Option String :=
  ((decodeFrom none bytes).mapM id).map String.ofList

/-- The characters of bytes, with the replacement character for what is malformed. -/
def decodeLossy (bytes : List Byte) : String :=
  String.ofList ((decodeFrom none bytes).map (·.getD '\uFFFD'))

end DocumentDb.Utf8
