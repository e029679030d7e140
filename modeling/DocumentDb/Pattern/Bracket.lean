import DocumentDb.Pattern.Escape

/-!
# Classes in brackets

A class in brackets holds the characters, ranges and classes between its brackets. Set operators
stand between operands; they group to the left. How deep a class is written counts towards the limit
on nesting: one level for each pair of brackets, for each operator, and for an operand of several
items.
-/

namespace DocumentDb.Pattern

/-- How deep patterns may nest. -/
def maxDepth : Nat := 250

/-- The set that a part of a class stands for, and how deep the part is written. -/
structure BracketPart where
  set : CharSet
  depth : Nat

/-! ### Operators -/

/-- An operator between the sets of a class. -/
inductive SetOperator
  | inter
  | difference
  | symmetricDifference

/-- The outcome of an operator; its operands are closed under case variants first. -/
def SetOperator.apply (flags : Flags) (first second : BracketPart) (operator : SetOperator) :
    BracketPart :=
  let operation : CharSet → CharSet → CharSet := match operator with
    | inter => .inter
    | difference => .difference
    | symmetricDifference => .symmetricDifference
  ⟨operation (foldUnder flags first.set) (foldUnder flags second.set),
    max first.depth second.depth + 1⟩

/-! ### Open classes -/

/-- A class that is being read: whether it is negated, the operand and operator before the present
operand, and of the items of the present operand their number, their spans and the greatest depth.
-/
structure OpenClass where
  negated : Bool
  before : Option (BracketPart × SetOperator)
  count : Nat
  spans : List Span
  depth : Nat

namespace OpenClass

/-- Start an operand. -/
def start (negated : Bool) (before : Option (BracketPart × SetOperator)) : OpenClass :=
  ⟨negated, before, 0, [], 0⟩

/-- Add an item to the present operand. -/
def add (state : OpenClass) (item : BracketPart) : OpenClass :=
  { state with
    count := state.count + 1
    spans := item.set.spans ++ state.spans
    depth := max state.depth item.depth }

/-- The present operand. -/
def operand (state : OpenClass) : BracketPart :=
  ⟨.ofSpans state.spans, if state.count ≤ 1 then state.depth else state.depth + 1⟩

/-- What was read so far. -/
def value (state : OpenClass) (flags : Flags) : BracketPart :=
  match state.before with
  | some (first, operator) => operator.apply flags first state.operand
  | none => state.operand

/-- The class, at its closing bracket. -/
def close (state : OpenClass) (flags : Flags) : Outcome BracketPart :=
  let value := state.value flags
  if maxDepth ≤ value.depth then .error .tooDeep
  else (finishSet flags state.negated value.set).map fun set => ⟨set, value.depth + 1⟩

/-- Start the operand behind an operator. -/
def next (state : OpenClass) (flags : Flags) (operator : SetOperator) : OpenClass :=
  start state.negated (some (state.value flags, operator))

end OpenClass

/-! ### Items -/

/-- Read an item of a class: a character that may be escaped, or a set. -/
def readItem (flags : Flags) : List Char → Outcome ((Char ⊕ CharSet) × List Char)
  | [] => .error .unclosedClass
  | '\\' :: cs => do
    match ← readEscape flags cs with
    | (.literal c _, rest) =>
      if flags.unicode || c.toNat < 128 then .ok (.inl c, rest) else .error .outsideAscii
    | (.set set, rest) => .ok (.inr set, rest)
    | (.assertion _, _) => .error .unknownEscape
  | c :: cs => if flags.unicode || c.toNat < 128 then .ok (.inl c, cs) else .error .outsideAscii

/-- Read an item or a range of a class. A hyphen before `]` or another hyphen makes no range. -/
def readRange (flags : Flags) (cs : List Char) : Outcome (CharSet × List Char) := do
  let (first, rest) ← readItem flags cs
  let alone : CharSet := match first with
    | .inl c => .single c
    | .inr set => set
  match skip flags rest with
  | [] => .error .unclosedClass
  | '-' :: after =>
    if peek? flags after = some ']' || peek? flags after = some '-' then .ok (alone, rest)
    else
      match first, ← readItem flags (skip flags after) with
      | .inl first, (.inl last, rest) =>
        if first ≤ last then .ok (.range first.toNat last.toNat, rest) else .error .invalidRange
      | _, _ => .error .invalidRange
  | _ => .ok (alone, rest)

/-- The class of a name such as `[:alpha:]` and the rest, where one follows the bracket. -/
def namedClass? (cs : List Char) : Option (Bool × CharSet × List Char) :=
  match cs with
  | ':' :: cs =>
    let (negated, cs) := match cs with
      | '^' :: cs => (true, cs)
      | cs => (false, cs)
    match Text.cut? ':' cs with
    | some (name, ']' :: rest) =>
      (CharSet.asciiClass? (String.ofList name)).map fun set => (negated, set, rest)
    | _ => none
  | _ => none

/-! ### Classes -/

/-- Read the hyphens at the start of a class; they are items. -/
def addHyphens (flags : Flags) : (fuel : Nat) → OpenClass → List Char → OpenClass × List Char
  | 0, state, cs => (state, cs)
  | fuel + 1, state, cs =>
    match skip flags cs with
    | '-' :: rest => addHyphens flags fuel (state.add ⟨.single '-', 0⟩) rest
    | cs => (state, cs)

/-- The start of a class behind its bracket: `^` negates it, and leading hyphens or a first `]` are
items. -/
def startClass (flags : Flags) (fuel : Nat) (cs : List Char) : OpenClass × List Char :=
  let (negated, cs) := match skip flags cs with
    | '^' :: cs => (true, cs)
    | cs => (false, cs)
  match addHyphens flags fuel (.start negated none) cs with
  | (state, ']' :: rest) =>
    if state.count = 0 then (state.add ⟨.single ']', 0⟩, rest) else (state, ']' :: rest)
  | read => read

/-- Read the rest of a class, in which so many levels of classes may nest. -/
def readClass (flags : Flags) :
    (fuel levels : Nat) → OpenClass → List Char → Outcome (BracketPart × List Char)
  | 0, _, _, _ => .error .unclosedClass
  | fuel + 1, levels, state, cs =>
    match skip flags cs with
    | [] => .error .unclosedClass
    | ']' :: rest => (state.close flags).map (·, rest)
    | '[' :: rest =>
      match namedClass? rest with
      | some (negated, set, rest) => do
        let set ← finishSet flags negated set
        readClass flags fuel levels (state.add ⟨set, 0⟩) rest
      | none =>
        match levels with
        | 0 => .error .tooDeep
        | levels + 1 => do
          let (nested, inner) := startClass flags fuel rest
          let (part, rest) ← readClass flags fuel levels nested inner
          readClass flags fuel (levels + 1) (state.add part) rest
    | '&' :: '&' :: rest => readClass flags fuel levels (state.next flags .inter) rest
    | '-' :: '-' :: rest => readClass flags fuel levels (state.next flags .difference) rest
    | '~' :: '~' :: rest => readClass flags fuel levels (state.next flags .symmetricDifference) rest
    | cs => do
      let (set, rest) ← readRange flags cs
      readClass flags fuel levels (state.add ⟨set, 0⟩) rest

/-- Read a class behind its opening bracket. -/
def readBracket (flags : Flags) (cs : List Char) : Outcome (BracketPart × List Char) :=
  let (state, rest) := startClass flags cs.length cs
  readClass flags (cs.length + 1) maxDepth state rest

end DocumentDb.Pattern
