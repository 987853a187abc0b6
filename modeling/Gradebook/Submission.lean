import Gradebook.Ledger.Entry

namespace Gradebook

/-!
# Submissions

A submission is addressed by three numbers and stored as a record, of which only
the id and the manual grading status are interpreted.  The other members of the
record belong to the service and are carried along.
-/

/-- How far the manual grading of a submission has come. -/
inductive ManualStatus
  /-- No grades have been saved yet. -/
  | notGraded
  /-- A grader saved the grades. -/
  | manuallyGraded
  /-- An instructor is editing the submission. -/
  | beingEdited
  /-- The grades could not be applied. -/
  | gradingFailed
deriving DecidableEq

namespace ManualStatus

/-- The states by name. -/
def named : List (String × ManualStatus) :=
  [("not_graded", .notGraded), ("manually_graded", .manuallyGraded),
    ("being_edited", .beingEdited), ("grading_failed", .gradingFailed)]

/-- The name of a state. -/
def name : ManualStatus → String
  | .notGraded => "not_graded"
  | .manuallyGraded => "manually_graded"
  | .beingEdited => "being_edited"
  | .gradingFailed => "grading_failed"

/-- The state of a name, if it is one. -/
def ofName? (name : String) : Option ManualStatus :=
  named.lookup name

/-- Read the name of a state. -/
def reader : Json.Reader ManualStatus :=
  Json.nameReader named none

end ManualStatus

/-- The names of the members of a submission record that are interpreted. -/
def submissionFields : List String := ["id", "manual_status"]

/-- A submission record. -/
structure Submission where
  id : UInt64
  manualStatus : ManualStatus
  extra : Extra submissionFields

namespace Submission

/-- The members of a submission record read so far. -/
structure Fields where
  id : Option UInt64 := none
  manualStatus : Option ManualStatus := none

/-- Read one member of a submission record, and check it if it is not
interpreted. -/
def Fields.readMember (origin : Json.Origin) (fields : Fields) (name : String)
    (value : Json.Document) : Except Json.ReadError Fields :=
  if name = "id" then do
    let id ← Json.once name fields.id (Json.naturalReader origin value)
    return { fields with id }
  else if name = "manual_status" then do
    let manualStatus ← Json.once name fields.manualStatus (ManualStatus.reader origin value)
    return { fields with manualStatus }
  else do
    Json.check origin value
    return fields

/-- Read a submission record; both interpreted members have to be there. -/
def reader : Json.Reader Submission :=
  Json.objectReader "Submission" fun origin members ending => do
    let fields ← Json.foldMembers (Fields.readMember origin) ending {} members
    let id ← Json.required "id" fields.id
    let manualStatus ← Json.required "manual_status" fields.manualStatus
    let extra ← Extra.ofMembers members
    return ⟨id, manualStatus, extra⟩

/-- The record as JSON: the interpreted members first, then the others. -/
def toJson (submission : Submission) : Json :=
  .object (("id", .number (.natural submission.id)) ::
    ("manual_status", .string submission.manualStatus.name) ::
    submission.extra.members.entries)

end Submission

/-- The address of a submission: a lecture, an assignment in it, and the
submission's own id. -/
structure SubmissionKey where
  lecture : UInt64
  assignment : UInt64
  submission : UInt64
deriving DecidableEq

namespace SubmissionKey

/-- The path of the submission record below the base URL of the service. -/
def submissionPath (key : SubmissionKey) : String :=
  "/lectures/" ++ toString key.lecture.toNat ++ "/assignments/" ++
    toString key.assignment.toNat ++ "/submissions/" ++ toString key.submission.toNat

/-- The path of the grading properties below the base URL of the service. -/
def propertiesPath (key : SubmissionKey) : String :=
  key.submissionPath ++ "/properties"

/-- The key as messages show it. -/
def text (key : SubmissionKey) : String :=
  toString key.lecture.toNat ++ "/" ++ toString key.assignment.toNat ++ "/" ++
    toString key.submission.toNat

end SubmissionKey

end Gradebook
