import DocumentDb.Pattern.Unicode.Folding

/-!
# Sets of characters

A set of characters is kept as the spans that it consists of, in order and apart, so that equal sets
are written alike. Spans end and start at characters: behind U+D7FF comes U+E000, as surrogates are
no characters.
-/

namespace DocumentDb.Pattern

/-- A set of characters. -/
structure CharSet where
  spans : List Span
deriving DecidableEq

namespace CharSet

instance : Inhabited CharSet := ⟨⟨[]⟩⟩

/-! ### Members -/

/-- Whether a code point is in the set. -/
def containsPoint (set : CharSet) (n : Nat) : Bool := set.spans.any (·.contains n)

/-- Whether a character is in the set. -/
def contains (set : CharSet) (c : Char) : Bool := set.containsPoint c.toNat

/-- The character of a set that has no other. -/
def single? (set : CharSet) : Option Char :=
  match set.spans with
  | [span] => if span.first = span.last then some (Char.ofNat span.first) else none
  | _ => none

/-- Whether the set holds characters of ASCII only. -/
def isAscii (set : CharSet) : Bool := set.spans.all (·.last < 128)

/-! ### Construction -/

/-- The code point after one. -/
def after (n : Nat) : Nat := if n = 0xD7FF then 0xE000 else n + 1

/-- The code point before one. -/
def before (n : Nat) : Nat := if n = 0xE000 then 0xD7FF else n - 1

/-- Join spans that overlap or touch; they come in the order of their first characters. -/
def joinFrom (present : Span) : List Span → List Span
  | [] => [present]
  | next :: rest =>
    if next.first ≤ after present.last then
      joinFrom ⟨present.first, max present.last next.last⟩ rest
    else present :: joinFrom next rest

/-- The characters of some spans. -/
def ofSpans (spans : List Span) : CharSet :=
  match spans.mergeSort (fun a b => a.first ≤ b.first) with
  | [] => ⟨[]⟩
  | first :: rest => ⟨joinFrom first rest⟩

/-- The characters of some runs. -/
def ofRuns (runs : List Run) : CharSet := ofSpans (runs.flatMap Run.spans)

/-- The characters of the runs in lines of words. -/
def ofLines (lines : List String) : CharSet := ofRuns (Run.readLines lines)

/-- The empty set. -/
def empty : CharSet := ⟨[]⟩

/-- The characters between two code points. -/
def range (first last : Nat) : CharSet := ⟨[⟨first, last⟩]⟩

/-- All characters. -/
def all : CharSet := range 0 0x10FFFF

/-- The characters of ASCII. -/
def ascii : CharSet := range 0 0x7F

/-- One character. -/
def single (c : Char) : CharSet := range c.toNat c.toNat

/-! ### Operations -/

/-- The characters of two sets. -/
def union (first second : CharSet) : CharSet := ofSpans (first.spans ++ second.spans)

/-- The spans between the given ones, from a code point on. -/
def gapsFrom (start : Nat) : List Span → List Span
  | [] => if start ≤ 0x10FFFF then [⟨start, 0x10FFFF⟩] else []
  | span :: rest =>
    let gaps := gapsFrom (after span.last) rest
    if start < span.first then ⟨start, before span.first⟩ :: gaps else gaps

/-- All characters that are not in the set. -/
def complement (set : CharSet) : CharSet := ⟨gapsFrom 0 set.spans⟩

/-- The characters in both of two sets. -/
def inter (first second : CharSet) : CharSet :=
  complement (union (complement first) (complement second))

/-- The characters of the first set that are not in the second. -/
def difference (first second : CharSet) : CharSet := inter first (complement second)

/-- The characters that are in one of two sets only. -/
def symmetricDifference (first second : CharSet) : CharSet :=
  difference (union first second) (inter first second)

/-- The set with all case variants of its characters. -/
def folded (set : CharSet) : CharSet :=
  let variants := (Folding.cased.filter set.containsPoint).flatMap Folding.variants
  ofSpans (set.spans ++ variants.map fun n => ⟨n, n⟩)

end CharSet

end DocumentDb.Pattern
