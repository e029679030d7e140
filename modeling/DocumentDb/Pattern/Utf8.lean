import DocumentDb.Pattern.CharSet

/-!
# Ranges of bytes

The characters of a span are the texts in UTF-8 that some sequences of byte ranges describe. A span
is split until the bytes of its characters range independently of each other.
-/

namespace DocumentDb.Pattern

/-- The bytes from a first to a last one. -/
structure ByteRange where
  first : Nat
  last : Nat
deriving DecidableEq

namespace Utf8

/-- The bytes of a code point. -/
def encode (n : Nat) : List Nat :=
  if n < 0x80 then [n]
  else if n < 0x800 then [0xC0 + n / 64, 0x80 + n % 64]
  else if n < 0x10000 then [0xE0 + n / 4096, 0x80 + n / 64 % 64, 0x80 + n % 64]
  else [0xF0 + n / 262144, 0x80 + n / 4096 % 64, 0x80 + n / 64 % 64, 0x80 + n % 64]

/-- The number of bytes of a text. -/
def size (text : List Char) : Nat := (text.flatMap fun c => encode c.toNat).length

/-- Where to split a span so that blocks of characters with the same first bytes are whole. -/
def splitAtBlock? (first last block : Nat) : Option Nat :=
  if first / block = last / block then none
  else if first % block ≠ 0 then some ((first / block + 1) * block - 1)
  else if last % block ≠ block - 1 then some (last / block * block - 1)
  else none

/-- The last code point of the first part, where a span has to be split: at the surrogates, where
the number of bytes changes, or at a block. -/
def splitAt? (first last : Nat) : Option Nat :=
  match [0xD7FF, 0x7F, 0x7FF, 0xFFFF].find? fun n => first ≤ n && n < last with
  | some n => some n
  | none => if last < 0x80 then none else [64, 4096, 262144].findSome? (splitAtBlock? first last)

/-- The sequences of byte ranges for the characters between two code points. -/
def sequencesBetween (first last : Nat) : List (List ByteRange) :=
  match splitAt? first last with
  | none => [List.zipWith ByteRange.mk (encode first) (encode last)]
  | some n =>
    if _ : first ≤ n ∧ n < last then
      sequencesBetween first n ++ sequencesBetween (CharSet.after n) last
    else []
termination_by last - first
decreasing_by
  · omega
  · simp only [CharSet.after]
    split <;> omega

/-- The sequences of byte ranges for the characters of a set, in order. -/
def sequences (set : CharSet) : List (List ByteRange) :=
  set.spans.flatMap fun span => sequencesBetween span.first span.last

end Utf8

end DocumentDb.Pattern
