import DocumentDb.Server.Routing

/-!
# The service

What the server answers to a request: it finds the handler, lets signed-in clients through to it,
and adds the header fields that every response has.

Not described are the limit on the length of a body, the header fields for requests from pages of
other origins, and the log.
-/

namespace DocumentDb.Server

/-! ### The gate -/

namespace Request

/-- Whether a request needs no credentials: the welcome, the state of the server, and all about the
session. -/
def isPublic (request : Request) : Bool :=
  request.path = "/_session" ||
    (request.path ∈ ["/", "/_up"] && request.method.answeredAs = .get)

/-- Whether a request may go on to its handler. Any credentials will do, and a session does without
them. -/
def isAdmitted (request : Request) (i : Instance) : Bool :=
  request.isPublic || (request.header? "authorization").isSome || i.user.isSome

end Request

/-! ### Responses -/

namespace Response

/-- The response with a list of header fields, in place of any of their names. -/
def withHeaders (response : Response) (fields : List HeaderField) : Response :=
  fields.foldl (fun response field => response.withHeader field.name field.value) response

/-- The response with the header fields of every response of the server: those of the set-up, then
those that clients of the server expect. -/
def signed (response : Response) (config : Config) : Response :=
  response.withHeaders
    (config.extraHeaders ++ [⟨"cache-control", "must-revalidate"⟩, ⟨"server", Fixed.banner⟩])

/-- The response to a request that has no handler. -/
def unhandled (request : Request) : Response :=
  text 501
    ("No implementation for " ++ request.method.name ++ " " ++ String.ofList request.location)

end Response

/-- The response that an answer stands for. -/
def Answer.response : Answer → Response
  | .ok response => response
  | .error failure => failure.response

/-! ### Requests -/

namespace Context

/-- Let the handler of the request answer, where it has one and the request may pass. -/
def handle (context : Context) (i : Instance) : Response × Instance :=
  match context.request.handler? with
  | none => (.unhandled context.request, i)
  | some handler =>
    if context.request.isAdmitted i then
      let (answer, i) := handler context i
      (answer.response, i)
    else (Answer.response (.error (.operation .unauthorized)), i)

/-- Answer the request. A question for options is answered without the database; a response to a
request for the head has no body. -/
def serve (context : Context) (i : Instance) : Response × Instance :=
  if context.request.method = .options then (.empty 200, i)
  else
    let (response, i) := context.handle i
    let shown := if context.request.method = .head then response.withoutBody else response
    (shown.signed context.config, i)

end Context

end DocumentDb.Server
