import DocumentDb.Json.Decode

/-!
# Security objects

A database has administrators and members, each given by names and roles. The object is stored and
listed; it has no effect on requests.
-/

namespace DocumentDb

/-- Users by name and by role. -/
structure SecurityGroup where
  names : List String
  roles : List String
deriving DecidableEq

namespace SecurityGroup

/-- The group in a value. -/
def decode (value : Json) : Decoded SecurityGroup := do
  let record ← Decode.Record.ofJson "a security group" 2 value
  let names ← record.defaulted 0 "names" [] (Decode.list Decode.string)
  let roles ← record.defaulted 1 "roles" [] (Decode.list Decode.string)
  return ⟨names, roles⟩

/-- The group in JSON. -/
def toJson (group : SecurityGroup) : Json :=
  .object [("names", .strings group.names), ("roles", .strings group.roles)]

/-- The server administrators. -/
def serverAdmins : SecurityGroup := ⟨[], ["_admin"]⟩

end SecurityGroup

/-- The security object of a database. -/
structure Security where
  admins : SecurityGroup
  members : SecurityGroup
deriving DecidableEq

namespace Security

/-- The security object of a new database. -/
def initial : Security := ⟨.serverAdmins, .serverAdmins⟩

/-- The security object in JSON. -/
def toJson (security : Security) : Json :=
  .object [("admins", security.admins.toJson), ("members", security.members.toJson)]

/-- The security object with the groups of an update in place of its own. -/
def update (security : Security) (fields : Fields Json) : Decoded Security := do
  let record : Decode.Record := .named "a security object" fields
  let admins ← record.optional 0 "admins" SecurityGroup.decode
  let members ← record.optional 1 "members" SecurityGroup.decode
  return ⟨admins.getD security.admins, members.getD security.members⟩

end Security

end DocumentDb
