import DocumentDb.Pattern.Unicode.Age
import DocumentDb.Pattern.Unicode.Break
import DocumentDb.Pattern.Unicode.Script

/-!
# Named character classes

The sets behind the escapes for digits, white space and word characters, behind the names in
double brackets such as `[:alpha:]`, and behind the names of character properties.
-/

namespace DocumentDb.Pattern.CharSet

/-! ### Digits, white space, words -/

/-- The decimal digits of all scripts. -/
def digits : CharSet := Category.ofAbbreviations ["nd"]

/-- The characters with the property `White_Space`. -/
def blanks : CharSet := .ofLines ["9-d 20 85 a0 1680 2000-200a 2028-2029 202f 205f 3000"]

/-- The alphabetic characters. -/
def alphabetic : CharSet := (CharProperty.ofName? "alphabetic").getD .empty

/-- The characters of numbers. -/
def numeric : CharSet := Category.ofAbbreviations ["nd", "nl", "no"]

/-- The characters of words: alphabetic characters, marks, digits, connecting punctuation and the
two joiners. -/
def wordChars : CharSet :=
  .union alphabetic <|
    .union (Category.ofAbbreviations ["mn", "mc", "me", "nd", "pc"]) (.ofLines ["200c-200d"])

/-- The digits of ASCII. -/
def asciiDigits : CharSet := .ofLines ["30-39"]

/-- The white space of ASCII. -/
def asciiBlanks : CharSet := .ofLines ["9-d 20"]

/-- The word characters of ASCII. -/
def asciiWordChars : CharSet := .ofLines ["30-39 41-5a 5f 61-7a"]

/-! ### Names in double brackets -/

/-- The classes of ASCII characters by name. -/
def asciiClasses : List (String × String) :=
  [("alnum", "30-39 41-5a 61-7a"), ("alpha", "41-5a 61-7a"), ("ascii", "0-7f"),
   ("blank", "9 20"), ("cntrl", "0-1f 7f"), ("digit", "30-39"), ("graph", "21-7e"),
   ("lower", "61-7a"), ("print", "20-7e"), ("punct", "21-2f 3a-40 5b-60 7b-7e"),
   ("space", "9-d 20"), ("upper", "41-5a"), ("word", "30-39 41-5a 5f 61-7a"),
   ("xdigit", "30-39 41-46 61-66")]

/-- The class of a name in double brackets. -/
def asciiClass? (name : String) : Option CharSet :=
  (asciiClasses.lookup name).map fun line => .ofLines [line]

/-! ### Character properties -/

/-- A name without case, blanks, hyphens, low lines and a leading `is`; what is not ASCII is
dropped. The name `isc` is kept from becoming the name of a category. -/
def normalName (name : List Char) : String :=
  let (marked, rest) := match name with
    | a :: b :: rest => if a.toLower = 'i' && b.toLower = 's' then (true, rest) else (false, name)
    | _ => (false, name)
  let kept :=
    (rest.filter fun c => c.toNat < 128 && c != ' ' && c != '_' && c != '-').map Char.toLower
  if marked && kept = ['c'] then "isc" else String.ofList kept

/-- The characters of a property, a general category or a script. The short names of three
categories win over those of properties. -/
def named? (name : List Char) : Option CharSet :=
  let name := normalName name
  let property := if name ∈ ["cf", "sc", "lc"] then none else CharProperty.ofName? name
  property.orElse fun _ => (Category.ofName? name).orElse fun _ => Script.ofName? name

/-- The characters for which a property has a value: the general category, the scripts, the age or
the breaks. -/
def valued? (name value : List Char) : Option CharSet :=
  let value := normalName value
  match normalName name with
  | "gc" | "generalcategory" => Category.ofName? value
  | "sc" | "script" => Script.ofName? value
  | "scx" | "scriptextensions" => Script.extendedOfName? value
  | "age" => Age.ofName? value
  | "gcb" | "graphemeclusterbreak" => CharProperty.find? Break.grapheme value
  | "wb" | "wordbreak" => CharProperty.find? Break.word value
  | "sb" | "sentencebreak" => CharProperty.find? Break.sentence value
  | _ => none

end DocumentDb.Pattern.CharSet
