import Gradebook.Json.Reader

namespace Gradebook

/-!
# Sessions

A session says who is acting and which role this user has in each lecture.  It
is handed to everything that needs permission.
-/

/-- A user's role within one lecture. -/
inductive Role
  | student
  | tutor
  | instructor
deriving DecidableEq

namespace Role

/-- The roles by name. -/
def named : List (String × Role) :=
  [("student", .student), ("tutor", .tutor), ("instructor", .instructor)]

/-- The name of a role. -/
def name : Role → String
  | .student => "student"
  | .tutor => "tutor"
  | .instructor => "instructor"

/-- The role of a name, if it is one. -/
def ofName? (name : String) : Option Role :=
  named.lookup name

/-- Read the name of a role. -/
def reader : Json.Reader Role :=
  Json.nameReader named none

/-- Tutors and instructors grade, students do not. -/
def canGrade : Role → Bool
  | .student => false
  | .tutor | .instructor => true

end Role

/-- Who is acting, and with which roles.  The roles are listed latest first: the
first entry for a lecture counts. -/
structure Session where
  username : String
  roles : List (UInt64 × Role)

namespace Session

/-- The session of a user without any role. -/
def ofUser (username : String) : Session := ⟨username, []⟩

/-- Give the user a role in a lecture, in place of an earlier one. -/
def withRole (session : Session) (lecture : UInt64) (role : Role) : Session :=
  { session with roles := (lecture, role) :: session.roles }

/-- The user's role in a lecture. -/
def role? (session : Session) (lecture : UInt64) : Option Role :=
  session.roles.lookup lecture

/-- Whether the user may grade in a lecture. -/
def canGrade (session : Session) (lecture : UInt64) : Bool :=
  match session.role? lecture with
  | some role => role.canGrade
  | none => false

/-! ## JSON -/

/-- The fields of a session read so far. -/
structure Fields where
  username : Option String := none
  roles : Option (List (UInt64 × Role)) := none

/-- Read one member of a session. -/
def Fields.read (origin : Json.Origin) (fields : Fields) (name : String)
    (value : Json.Document) : Except Json.ReadError Fields :=
  match name with
  | "username" => do
    let username ← Json.once name fields.username (Json.stringReader origin value)
    return { fields with username }
  | "roles" => do
    let roles ← Json.once name fields.roles (Json.naturalMapReader Role.reader origin value)
    return { fields with roles }
  | _ => do
    Json.skip value
    return fields

/-- The session that the fields make; of several roles in one lecture the last
counts. -/
def Fields.toSession (fields : Fields) : Except Json.ReadError Session := do
  let username ← Json.required "username" fields.username
  return ⟨username, (fields.roles.getD []).reverse⟩

/-- Read a session from the list of its fields. -/
def ofElements (elements : Json.Elements) : Except Json.ReadError Session := do
  let (username, elements) ← elements.nextRequired Json.stringReader 0
    "struct SessionContext with 2 elements"
  let (roles, elements) ← elements.next (Json.naturalMapReader Role.reader)
  elements.finish
  return ⟨username, (roles.getD []).reverse⟩

/-- Read a session; without roles it has none. -/
def reader : Json.Reader Session :=
  Json.recordReader "SessionContext"
    (fun origin members ending => do
      let fields ← Json.foldMembers (Fields.read origin) ending {} members
      fields.toSession)
    ofElements

/-- Read the text of a session. -/
def ofText (text : String) : Except Json.ReadError Session :=
  Json.readText reader text

/-- The roles as a JSON object over the lectures. -/
def rolesJson (session : Session) : Json :=
  .ofDict (.ofList (session.roles.reverse.map fun (lecture, role) =>
    (toString lecture.toNat, .string role.name)))

/-- A session as a JSON object with its keys in order. -/
def toJson (session : Session) : Json :=
  .ofDict (.ofList [("username", .string session.username), ("roles", session.rolesJson)])

end Session

end Gradebook
