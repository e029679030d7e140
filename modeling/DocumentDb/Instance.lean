import DocumentDb.Database.Listing

/-!
# Instances

An instance holds databases by name, in the order of their creation, and the user who is signed in.
-/

namespace DocumentDb

/-- Databases and the session. -/
structure Instance where
  databases : Table Database
  user : Option String

namespace Instance

/-- The instance without databases and session. -/
def empty : Instance := ⟨.empty, none⟩

/-- The user who is signed in where no name is asked for. -/
def defaultUser : String := "root"

/-! ### Databases -/

/-- Make a database unless there is one of its name. -/
def addDatabase (i : Instance) (name : String) : Instance :=
  if i.databases.contains name then i
  else { i with databases := i.databases.insert name (.new name) }

/-- Make a database that must not exist yet. -/
def createDatabase (i : Instance) (name : String) : Except Error Unit × Instance :=
  if i.databases.contains name then (.error (.databaseExists name), i)
  else (.ok (), i.addDatabase name)

/-- Drop a database. -/
def deleteDatabase (i : Instance) (name : String) : Except Error Unit × Instance :=
  if i.databases.contains name then (.ok (), { i with databases := i.databases.erase name })
  else (.error (.missingDatabase name), i)

/-- The database of a name. -/
def database? (i : Instance) (name : String) : Option Database := i.databases.get? name

/-- Put a changed database in the place of the one of that name. -/
def setDatabase (i : Instance) (name : String) (db : Database) : Instance :=
  { i with databases := i.databases.insert name db }

/-- Drop every database; the session stays. -/
def reset (i : Instance) : Instance := { i with databases := .empty }

/-! ### Session -/

/-- Sign a user in. -/
def login (i : Instance) (name : String) : Instance := { i with user := some name }

/-- Sign the default user in. -/
def authenticate (i : Instance) : Instance := i.login defaultUser

/-- Sign the user out. -/
def logout (i : Instance) : Instance := { i with user := none }

end Instance

end DocumentDb
