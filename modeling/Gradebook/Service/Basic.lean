import Gradebook.Ledger.Basic
import Gradebook.Service.Access
import Gradebook.Service.Exchange
import Gradebook.Service.MediaType
import Gradebook.Service.Route
import Gradebook.Service.Store

namespace Gradebook

/-!
# The grading service

The service keeps submissions in a store and answers requests.  It reads and
replaces records and grading properties of the submissions it knows, and it
never adds or removes one.  Properties are replaced only by a payload that is a
grade ledger, records only by a record with the id that the path names.

`Service.respond` answers one request.  Its order decides which of several
faults is reported: the path, preflight, access, method, the numbers in the
path, the body, its content, and last whether the submission is known.
-/

/-- A grading service. -/
structure Service where
  access : Access
  store : Store

namespace Service

/-- What an operation answers, with the store after it. -/
abbrev Outcome := Response × Store

/-! ## Bodies -/

/-- The number of bytes that a body may have. -/
def maximalBodySize : Nat := 2097152

/-- Read the body of a request as JSON of some shape. -/
def readBody {α : Type} (reader : Json.Reader α) (request : Request) : Except Response α :=
  let media := (request.contentType.filter Access.isReadable).bind MediaType.ofText?
  if (media.map MediaType.isJson).getD false then
    if maximalBodySize < request.body.utf8ByteSize then
      .error (.plain 413 "Failed to buffer the request body: length limit exceeded")
    else match Json.readText reader request.body with
    | .ok value => .ok value
    | .error (.mismatch mismatch) =>
      .error (.plain 422 ("Failed to deserialize the JSON body into the target type: " ++
        mismatch.message))
    | .error (.damaged _) => .error (.plain 400 "Failed to parse the request body as JSON")
  else .error (.plain 415 "Expected request with \x60Content-Type: application/json\x60")

/-! ## Operations on a submission -/

/-- The answer for a submission that the service does not know. -/
def notFound (key : SubmissionKey) : Response :=
  .plain 404 ("Submission " ++ key.text ++ " not found")

/-- Answer with the grading properties of a submission. -/
def getProperties (store : Store) (key : SubmissionKey) : Response :=
  match store.get? key with
  | some stored => .json stored.properties
  | none => notFound key

/-- Answer with the record of a submission. -/
def getSubmission (store : Store) (key : SubmissionKey) : Response :=
  match store.get? key with
  | some stored => .json stored.submission.toJson
  | none => notFound key

/-- Replace the properties of a submission by a payload. -/
def putProperties (store : Store) (key : SubmissionKey) (payload : Json) : Outcome :=
  match Ledger.ofJson payload with
  | .error (.mismatch mismatch) =>
    (.plain 400 ("Invalid properties: " ++ mismatch.message), store)
  | .error (.damaged _) => (.plain 400 "Invalid properties", store)
  | .ok _ =>
    match store.setProperties? key payload with
    | some store => (.bare 204, store)
    | none => (notFound key, store)

/-- Replace the record of a submission. -/
def putSubmission (store : Store) (key : SubmissionKey) (submission : Submission) : Outcome :=
  if submission.id ≠ key.submission then
    (.plain 400 ("Submission id " ++ toString submission.id.toNat ++
      " does not match path id " ++ toString key.submission.toNat), store)
  else
    match store.setSubmission? key submission with
    | some store => (.json submission.toJson, store)
    | none => (notFound key, store)

/-! ## Requests -/

/-- The methods that a route knows, as the `allow` header lists them. -/
def allowed : Route → String
  | .health => "GET,HEAD"
  | .submission _ | .properties _ => "GET,HEAD,PUT"

/-- The methods of a route to which it has an answer. -/
def knows : Route → Method → Bool
  | _, .get | _, .head => true
  | .health, _ => false
  | _, .put => true
  | _, _ => false

/-- Answer a request for reading. -/
def read (store : Store) : Route → Response
  | .health => .json (.object [("status", .string "ok")])
  | .submission path =>
    match path.toKey with
    | .ok key => getSubmission store key
    | .error error => .plain 400 error.message
  | .properties path =>
    match path.toKey with
    | .ok key => getProperties store key
    | .error error => .plain 400 error.message

/-- Answer a request for writing. -/
def write (store : Store) (request : Request) : Route → Outcome
  | .health => (.bare 405, store)
  | .submission path =>
    match path.toKey with
    | .error error => (.plain 400 error.message, store)
    | .ok key =>
      match readBody Submission.reader request with
      | .error response => (response, store)
      | .ok submission => putSubmission store key submission
  | .properties path =>
    match path.toKey with
    | .error error => (.plain 400 error.message, store)
    | .ok key =>
      match readBody Json.keep request with
      | .error response => (response, store)
      | .ok payload => putProperties store key payload

/-- Whether a route is open to everyone. -/
def isOpen : Route → Bool
  | .health => true
  | _ => false

/-- Answer a request on a known path. -/
def respondAt (service : Service) (request : Request) (route : Route) : Outcome :=
  let allow := if knows route request.method then none else some (allowed route)
  if request.method = .options then
    ({ Response.bare 200 with allow := some (allowed route) }, service.store)
  else if !isOpen route && !service.access.admits request.authorization then
    ({ Response.bare 401 with allow }, service.store)
  else
    match request.method with
    | .get => (read service.store route, service.store)
    | .head => ({ read service.store route with body := "" }, service.store)
    | .put =>
      if isOpen route then ({ Response.bare 405 with allow }, service.store)
      else write service.store request route
    | _ => ({ Response.bare 405 with allow }, service.store)

/-- Answer a request. -/
def respond (service : Service) (request : Request) : Response × Service :=
  match Route.ofTarget? request.target with
  | some route =>
    let (response, store) := service.respondAt request route
    (response, { service with store })
  | none =>
    (.bare (if request.method = .options then 200 else 404), service)

/-- Answer requests one after the other. -/
def respondAll (service : Service) : List Request → List Response × Service
  | [] => ([], service)
  | request :: rest =>
    let (response, service) := service.respond request
    let (responses, service) := service.respondAll rest
    (response :: responses, service)

end Service

end Gradebook
