import DocumentDb.Json.Skipping
import DocumentDb.Server.Fixed
import DocumentDb.Server.Handler

/-!
# The server as a whole

Handlers that concern no single database: the welcome, the session, the list of databases, and
random ids. Any name with any password opens a session.
-/

namespace DocumentDb.Server

/-! ### The session -/

/-- A name and a password, each of which may be missing. -/
structure Credentials where
  name : Option String
  password : Option String

namespace Credentials

/-- No name and no password. -/
def none : Credentials := ⟨.none, .none⟩

/-- The credentials in the pairs of a form; a name or a password that comes twice spoils them. -/
def ofPairs (pairs : List (String × String)) : Credentials :=
  match Form.single? pairs "name", Form.single? pairs "password" with
  | some name, some password => ⟨name, password⟩
  | _, _ => none

/-- The credentials in a value. -/
def decode (value : Json) : Decoded Credentials := do
  let record ← Decode.Record.ofJson "credentials" 2 value
  let name ← record.optional 0 "name" Decode.string
  let password ← record.optional 1 "password" Decode.string
  return ⟨name, password⟩

/-- Whether an object spells a field more than once. -/
def repeats (value : Json) (key : String) : Bool :=
  match value with
  | .object fields => 1 < (fields.filter (·.1 = key)).length
  | _ => false

/-- The credentials in a JSON text, of which other fields are passed over; a name or a password that
comes twice spoils them. -/
def ofText (text : String) : Credentials :=
  match Json.readKnown? ["name", "password"].contains text with
  | some value =>
    if repeats value "name" || repeats value "password" then none
    else
      match decode value with
      | .ok credentials => credentials
      | .error _ => none
  | _ => none

/-- The media type of forms. -/
def formType : String := "application/x-www-form-urlencoded"

/-- The credentials in the body of a request, as a form or as JSON. -/
def ofRequest (request : Request) : Credentials :=
  if (request.plainHeader? "content-type").any (Text.startsWith · formType) then
    ofPairs (Form.pairs request.body)
  else if (request.header? "content-type").any isJsonType then ofText request.body
  else none

/-- The name, where there are a name and a password that are not empty. -/
def user? (credentials : Credentials) : Option String :=
  (credentials.password.filter (!·.isEmpty)).bind fun _ => credentials.name.filter (!·.isEmpty)

end Credentials

namespace Handler

/-- The cookie of every session. -/
def sessionCookie : String :=
  "AuthSession=cm9vdDo1MjA1NTBDMTqmX2qKt1KDR--GUC80DQ6-Ew_XIw; Version=1; " ++
    "Expires=Wed, 02-Sep-3000 06:33:37 GMT; Max-Age=600; Path=/; HttpOnly"

/-- The roles of a user. -/
def userRoles : Json := .strings ["_admin"]

/-- Who is signed in. -/
def showSession : Handler := reading fun _ i =>
  .ok <| .json 200 <| .object
    [("info", .object
       [("authenticated", .string "cookie"),
        ("authentication_handlers", .strings ["cookie", "default"])]),
     ("ok", .bool true),
     ("userCtx", .object
       [("name", .ofString? i.user), ("roles", if i.user.isSome then userRoles else .array [])])]

/-- Sign in. -/
def openSession : Handler := fun context i =>
  match (Credentials.ofRequest context.request).user? with
  | none => (.error (.operation .unauthorized), i)
  | some name =>
    let body := Json.object [("ok", .bool true), ("name", .string name), ("roles", userRoles)]
    (.ok ((Response.json 200 body).withHeader "set-cookie" sessionCookie), i.login name)

/-- Sign out. -/
def closeSession : Handler := fun _ i => (.ok (.acknowledged 200), i.logout)

/-! ### The server -/

/-- Welcome the client. -/
def welcome : Handler := reading fun context _ =>
  .ok (.json 200 (Fixed.welcome context.stamp.id.simple))

/-- List the databases. -/
def allDatabases : Handler := reading fun _ i => .ok (.json 200 (.strings i.databases.keys))

/-- Report on the databases that the body names. -/
def databaseReports : Handler :=
  taking jsonBody fun body => reading fun _ i =>
    match body.field? "keys" with
    | some (.array keys) =>
      .ok <| .json 200 <| .array <| keys.map fun key =>
        match key.string?.bind i.database? with
        | some db => .object [("key", key), ("info", db.info)]
        | none => .object [("key", key), ("error", .string "not_found")]
    | _ => .error .keysNotNames

/-- The greatest number of ids that one request gets. -/
def maxUuids : Nat := 1000

/-- Random ids: as many as the query asks for, one where it does not say. -/
def uuids : Handler :=
  taking
    (fun request =>
      match Form.single? (Form.pairs request.query) "count" with
      | some count => .ok (min ((count.bind Text.natural?).getD 1) maxUuids)
      | none => .error .malformedQuery)
    fun count => reading fun context _ =>
      let ids := (List.range count).map fun n => (context.stamps n).id.hyphenated
      .ok (.json 200 (.object [("uuids", .strings ids)]))

/-- Report on the resharding job that the path names. -/
def reshardJob (raw : String) : Handler :=
  taking (fun _ => segment raw) fun id => fixed (.json 200 (Fixed.reshardJob id))

end Handler

end DocumentDb.Server
