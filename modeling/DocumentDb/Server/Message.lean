import DocumentDb.Fields
import DocumentDb.Json.Reader
import DocumentDb.Server.Form
import DocumentDb.Server.Header

/-!
# Requests and responses

A request has a method, a target, header fields and a body; a response has a status, header fields
and a body that is empty, JSON or text.
-/

namespace DocumentDb.Server

/-! ### Requests -/

/-- The method of a request. -/
inductive Method
  | get
  | head
  | post
  | put
  | delete
  | options
  | copy
  | other (name : String)
deriving DecidableEq

namespace Method

/-- The method of a name; names are case-sensitive. -/
def ofName : String → Method
  | "GET" => get
  | "HEAD" => head
  | "POST" => post
  | "PUT" => put
  | "DELETE" => delete
  | "OPTIONS" => options
  | "COPY" => copy
  | name => other name

/-- The method whose handler answers: the head of a resource is that of the whole. -/
def answeredAs : Method → Method
  | head => get
  | method => method

/-- The name of a method. -/
def name : Method → String
  | get => "GET"
  | head => "HEAD"
  | post => "POST"
  | put => "PUT"
  | delete => "DELETE"
  | options => "OPTIONS"
  | copy => "COPY"
  | other name => name

end Method

/-- A request. The target is a path, which a query may follow behind a question mark; a fragment
behind a number sign does not count. -/
structure Request where
  method : Method
  target : String
  headers : List HeaderField
  body : String

namespace Request

/-- The path and the query. -/
def location (request : Request) : List Char := request.target.toList.takeWhile (· != '#')

/-- The path, still encoded. -/
def path (request : Request) : String := String.ofList (request.location.takeWhile (· != '?'))

/-- The query, empty where there is none. -/
def query (request : Request) : String :=
  String.ofList ((request.location.dropWhile (· != '?')).drop 1)

/-- The segments of a path that starts with a slash, still encoded. -/
def segments? (request : Request) : Option (List String) :=
  match Text.split '/' request.path with
  | "" :: segments => some segments
  | _ => none

/-- The value of a header field. -/
def header? (request : Request) (name : String) : Option String :=
  (request.headers.find? (·.name = name)).map HeaderField.value

/-- The value of a header field where it consists of visible ASCII characters. -/
def plainHeader? (request : Request) (name : String) : Option String :=
  (request.header? name).filter isPlainText

end Request

/-! ### Responses -/

/-- The body of a response. -/
inductive Body
  | empty
  | json (value : Json)
  | text (text : String)

/-- A response. -/
structure Response where
  status : Nat
  headers : Fields String
  body : Body

namespace Response

/-- A response without a body. -/
def empty (status : Nat) : Response := ⟨status, [], .empty⟩

/-- A response in JSON. -/
def json (status : Nat) (value : Json) : Response :=
  ⟨status, [("content-type", "application/json")], .json value⟩

/-- A response in plain text. -/
def text (status : Nat) (text : String) : Response :=
  ⟨status, [("content-type", "text/plain; charset=utf-8")], .text text⟩

/-- The response with a header field, in place of any of its name. -/
def withHeader (response : Response) (name value : String) : Response :=
  { response with headers := Fields.put response.headers name value }

/-- The response without its body; the header fields stay. -/
def withoutBody (response : Response) : Response := { response with body := .empty }

/-- The answer that all went well. -/
def acknowledged (status : Nat) : Response := json status (.object [("ok", .bool true)])

end Response

end DocumentDb.Server
