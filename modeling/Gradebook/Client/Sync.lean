import Gradebook.Client.Basic
import Gradebook.Ledger.Basic
import Gradebook.Session

namespace Gradebook

/-!
# Loading and saving ledgers

A `Sync` acts for one session.  Saving is no transaction: the grading properties
are replaced first, then the submission is marked as graded.  When only the
second part fails the properties stay, and the error says so.  Nothing is tried
twice, and a session that may not grade a lecture asks nothing at all.
-/

/-- Why loading or saving fails. -/
inductive SyncError
  | permissionDenied (username : String) (lecture : UInt64)
  /-- The first request failed. -/
  | fetch (error : ClientError)
  /-- The properties are no grade ledger. -/
  | parse (error : Json.ReadError)
  /-- The properties were saved, but the submission was not marked. -/
  | statusUpdate (error : ClientError)

namespace SyncError

/-- The message of a failure. -/
def message : SyncError → String
  | .permissionDenied username lecture =>
    "'" ++ username ++ "' is not allowed to grade lecture " ++ toString lecture.toNat
  | .fetch error => "failed to reach the grading service: " ++ error.message
  | .parse (.mismatch mismatch) => "malformed grading properties: " ++ mismatch.message
  | .parse (.damaged _) => "malformed grading properties: "
  | .statusUpdate error =>
    "scores were saved but the submission could not be marked as graded: " ++ error.message

/-- Whether the properties reached the service although the saving failed. -/
def propertiesSaved : SyncError → Bool
  | .statusUpdate _ => true
  | _ => false

end SyncError

/-- Loads and saves ledgers on behalf of a session. -/
structure Sync where
  client : Client
  session : Session

namespace Sync

/-- Whether the session may grade the lecture of a submission. -/
def authorize (sync : Sync) (key : SubmissionKey) : Except SyncError Unit :=
  if sync.session.canGrade key.lecture then .ok ()
  else .error (.permissionDenied sync.session.username key.lecture)

/-- Fetch the grading properties of a submission and read them as a ledger. -/
def load (sync : Sync) (key : SubmissionKey) : Dialogue (Except SyncError Ledger) :=
  match sync.authorize key with
  | .error error => .done (.error error)
  | .ok () => do
    match ← sync.client.getProperties key with
    | .error error => return .error (.fetch error)
    | .ok payload => return (Ledger.ofText payload).mapError .parse

/-- Mark a submission as graded; all else in its record stays as the service
holds it. -/
def markGraded (sync : Sync) (key : SubmissionKey) : Dialogue (Except ClientError Unit) := do
  match ← sync.client.getSubmission key with
  | .error error => return .error error
  | .ok submission =>
    sync.client.putSubmission key { submission with manualStatus := .manuallyGraded }

/-- Write a ledger back and mark the submission as graded. -/
def save (sync : Sync) (key : SubmissionKey) (ledger : Ledger) :
    Dialogue (Except SyncError Unit) :=
  match sync.authorize key with
  | .error error => .done (.error error)
  | .ok () => do
    match ← sync.client.putProperties key ledger.toJson with
    | .error error => return .error (.fetch error)
    | .ok () =>
      let outcome ← sync.markGraded key
      return outcome.mapError .statusUpdate

end Sync

end Gradebook
