import DocumentDb.Json.Reader

/-!
# Skipping JSON values

A value that nobody asks for is passed over by its spelling alone: it may nest to any depth, its
numbers may be of any size, and the escapes in its strings may stand for half a character.
`readKnown?` reads the fields of an object that are asked for and passes over the others.
-/

namespace DocumentDb.Json

/-! ### Values without parts -/

/-- Skip a string literal after the opening quote. -/
def skipString? : List Char → Option (List Char)
  | [] => none
  | '"' :: cs => some cs
  | '\\' :: 'u' :: a :: b :: c :: d :: cs =>
    if (Text.digits? 16 0 [a, b, c, d]).isSome then skipString? cs else none
  | '\\' :: c :: cs => if "\"\\/bfnrt".toList.contains c then skipString? cs else none
  | c :: cs => if c.toNat < 32 then none else skipString? cs

/-- Skip a value that is neither an array nor an object. -/
def skipScalar? : List Char → Option (List Char)
  | '"' :: cs => skipString? cs
  | 'n' :: cs => afterWord? "ull" cs
  | 't' :: cs => afterWord? "rue" cs
  | 'f' :: cs => afterWord? "alse" cs
  | cs => (readSpelling? cs).map (·.2)

/-- Skip the name of a field and the colon behind it. -/
def skipName? (cs : List Char) : Option (List Char) :=
  match skipSpace cs with
  | '"' :: cs =>
    (skipString? cs).bind fun cs =>
      match skipSpace cs with
      | ':' :: cs => some cs
      | _ => none
  | _ => none

/-! ### Values -/

/-- What a value stands in. -/
inductive Enclosure
  | array
  | object

/-- Skip to the value of the first item, or of the first field. -/
def Enclosure.skipToItem? : Enclosure → List Char → Option (List Char)
  | array, cs => some cs
  | object, cs => skipName? cs

/-- Skip up to the end of the outermost of the enclosures, the innermost of which comes first. The
characters start with a value, or with what follows one where `behind` holds. -/
def skipOut? : Nat → Bool → List Enclosure → List Char → Option (List Char)
  | 0, _, _, _ => none
  | _ + 1, true, [], cs => some cs
  | fuel + 1, true, inner :: outer, cs =>
    match inner, skipSpace cs with
    | .array, ']' :: cs | .object, '}' :: cs => skipOut? fuel true outer cs
    | _, ',' :: cs =>
      match inner.skipToItem? cs with
      | some cs => skipOut? fuel false (inner :: outer) cs
      | none => none
    | _, _ => none
  | fuel + 1, false, enclosures, cs =>
    match skipSpace cs with
    | '[' :: cs =>
      match skipSpace cs with
      | ']' :: cs => skipOut? fuel true enclosures cs
      | cs => skipOut? fuel false (.array :: enclosures) cs
    | '{' :: cs =>
      match skipSpace cs with
      | '}' :: cs => skipOut? fuel true enclosures cs
      | cs =>
        match skipName? cs with
        | some cs => skipOut? fuel false (.object :: enclosures) cs
        | none => none
    | cs =>
      match skipScalar? cs with
      | some cs => skipOut? fuel true enclosures cs
      | none => none

/-! ### Known fields -/

/-- The known fields of an object that has some, with the closing brace. -/
def readKnownFields? (known : String → Bool) :
    Nat → List Char → Option (List (String × Json) × List Char)
  | 0, _ => none
  | fuel + 1, cs =>
    match skipSpace cs with
    | '"' :: cs =>
      (readString? cs).bind fun (key, cs) =>
        match skipSpace cs with
        | ':' :: cs =>
          let value? : Option (List (String × Json) × List Char) :=
            if known key then
              (readValue? fuel (maxNesting - 1) cs).map fun (value, cs) => ([(key, value)], cs)
            else (skipOut? fuel false [] cs).map ([], ·)
          value?.bind fun (field, cs) =>
            match skipSpace cs with
            | '}' :: cs => some (field, cs)
            | ',' :: cs =>
              (readKnownFields? known fuel cs).map fun (fields, cs) => (field ++ fields, cs)
            | _ => none
        | _ => none
    | _ => none

/-- The value that a text spells out, repeated keys included, without the fields of it that are not
known. -/
def readKnown? (known : String → Bool) (s : String) : Option Json :=
  match skipSpace s.toList with
  | '{' :: cs =>
    let fields? := match skipSpace cs with
      | '}' :: cs => some ([], cs)
      | cs => readKnownFields? known (2 * cs.length + 2) cs
    fields?.bind fun (fields, cs) =>
      if (skipSpace cs).isEmpty then some (.object fields) else none
  | _ => readSpelled? s

end DocumentDb.Json
