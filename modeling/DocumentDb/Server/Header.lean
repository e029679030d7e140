import DocumentDb.Text.Basic

/-!
# Header fields

The names and values of header fields, and the media types in them.
-/

namespace DocumentDb.Server

/-- The characters of names and media types. -/
def isTokenChar (c : Char) : Bool := c.isAlphanum || c ∈ "!#$%&'*+-.^_`|~".toList

/-- Whether a text consists of visible ASCII characters, blanks and tabs. -/
def isPlainText (s : String) : Bool :=
  s.toList.all fun c => (32 ≤ c.toNat && c.toNat < 127) || c == '\t'

/-- Whether a text may be sent as the value of a header field: it has no control characters but
tabs. -/
def isSendable (s : String) : Bool :=
  s.toList.all fun c => (32 ≤ c.toNat && c.toNat != 127) || c == '\t'

/-- A header field; its name is in lower case. -/
structure HeaderField where
  name : String
  value : String
deriving DecidableEq

namespace HeaderField

/-- The field in a text such as `NAME:VALUE`, with white space around the two parts left out. -/
def parse? (text : String) : Option HeaderField :=
  match Text.cut? ':' text.toList with
  | none => none
  | some (name, value) =>
    let name := Text.trim name
    let value := String.ofList (Text.trim value)
    if !name.isEmpty && name.all isTokenChar && isPlainText value then
      some ⟨Text.lower (String.ofList name), value⟩
    else none

end HeaderField

/-! ### Media types -/

/-- Whether a character may stand in quotes. -/
def isQuotable (c : Char) : Bool := 32 ≤ c.toNat && c.toNat != 127

/-- Where a reader of the parameters behind a media type stands. -/
inductive ParameterState
  | beforeName
  | inName
  | beforeValue
  | inValue
  | beforeQuoted
  | inQuoted
  | afterQuoted
deriving DecidableEq

namespace ParameterState

/-- The state after a character; nothing where it is out of place. -/
def next? (c : Char) : ParameterState → Option ParameterState
  | beforeName => if c = ' ' then some beforeName else if isTokenChar c then some inName else none
  | inName => if c = '=' then some beforeValue else if isTokenChar c then some inName else none
  | beforeValue =>
    if c = '"' then some beforeQuoted else if isTokenChar c then some inValue else none
  | inValue => if c = ';' then some beforeName else if isTokenChar c then some inValue else none
  | beforeQuoted => if isQuotable c then some inQuoted else none
  | inQuoted =>
    if c = '"' then some afterQuoted else if isQuotable c then some inQuoted else none
  | afterQuoted =>
    if c = ';' then some beforeName else if c = ' ' then some afterQuoted else none

/-- Whether the parameters may end here. -/
def isFinal (state : ParameterState) : Bool :=
  state ∈ [beforeName, beforeValue, inValue, afterQuoted]

end ParameterState

/-- Whether a text consists of parameters: names and values with `=` between them, the values tokens
or quoted, with semicolons between the parameters. -/
def areParameters (text : List Char) : Bool :=
  (text.foldl (fun state c => state.bind (·.next? c)) (some ParameterState.beforeName)).any
    ParameterState.isFinal

/-- Whether a subtype is that of JSON: `json`, alone or on one side of its last plus sign, which may
not come first. -/
def isJsonSubtype (subtype : List Char) : Bool :=
  match (Text.splitChars '+' subtype).reverse with
  | last :: before :: rest =>
    let front := ['+'].intercalate (before :: rest).reverse
    front = "json".toList || (last = "json".toList && !front.isEmpty)
  | single => single = ["json".toList]

/-- Whether a media type is that of JSON: `application/json`, or a type of applications with the
suffix `json`. -/
def isJsonType (text : String) : Bool :=
  match Text.cut? '/' (Text.lower text).toList with
  | none => false
  | some (kind, rest) =>
    let subtype := rest.takeWhile (· != ';')
    let parameters := (rest.dropWhile (· != ';')).drop 1
    isPlainText text && kind = "application".toList && subtype.all isTokenChar &&
      isJsonSubtype subtype && areParameters parameters

end DocumentDb.Server
