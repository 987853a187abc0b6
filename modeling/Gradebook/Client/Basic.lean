import Gradebook.Client.Dialogue
import Gradebook.Client.Status
import Gradebook.Submission

namespace Gradebook

/-!
# The client of the service

A client knows the base URL of a service and may hold a token.  Each operation
asks one thing and reads the response; everything that is no success becomes a
`ClientError`.
-/

/-- A client of the service. -/
structure Client where
  baseUrl : String
  token : Option String

/-- Why an operation of the client fails. -/
inductive ClientError
  /-- There is no response, or its content cannot be read. -/
  | http
  | notFound (body : String)
  | badRequest (body : String)
  | unauthorized
  | forbidden (body : String)
  | conflict (body : String)
  | server (status : Nat) (body : String)
deriving DecidableEq

/-- The message of a failed operation. -/
def ClientError.message : ClientError → String
  | .http => "HTTP request failed"
  | .notFound body => "Not found: " ++ body
  | .badRequest body => "Bad request: " ++ body
  | .unauthorized => "Unauthorized: API token required or invalid"
  | .forbidden body => "Forbidden: " ++ body
  | .conflict body => "Conflict: " ++ body
  | .server status body => "Server error: " ++ Status.text status ++ ": " ++ body

namespace Client

/-- The client for a base URL, of which slashes at the end do not count. -/
def ofUrl (url : String) (token : Option String) : Client :=
  ⟨String.ofList ((url.toList.reverse.dropWhile (· = '/')).reverse), token⟩

/-- The call for a path below the base URL. -/
def call (client : Client) (method : Method) (path : String) (body : Option Json) : Call where
  method
  url := client.baseUrl ++ path
  authorization := client.token.map ("Bearer " ++ ·)
  contentType := body.map fun _ => "application/json"
  body := (body.map Json.compress).getD ""

/-! ## Responses -/

/-- The text in a body, which may begin with a byte order mark. -/
def plainText (body : String) : String :=
  match body.toList with
  | '\ufeff' :: rest => String.ofList rest
  | _ => body

/-- What a response without success means. -/
def errorFor (response : Response) : ClientError :=
  let text := plainText response.body
  if response.status = 404 then .notFound text
  else if response.status = 400 then .badRequest text
  else if response.status = 401 then .unauthorized
  else if response.status = 403 then .forbidden text
  else if response.status = 409 then .conflict text
  else .server response.status text

/-- The body of a successful response. -/
def successBody : Reply → Except ClientError String
  | none => .error .http
  | some response => if response.isSuccess then .ok response.body else .error (errorFor response)

/-- Ask for something and take the body of the response. -/
def request (client : Client) (method : Method) (path : String) (body : Option Json) :
    Dialogue (Except ClientError String) := do
  let reply ← Dialogue.call (client.call method path body)
  return successBody reply

/-! ## Operations -/

/-- Fetch the grading properties of a submission, as text: whether the text can
be read is for the caller to say. -/
def getProperties (client : Client) (key : SubmissionKey) :
    Dialogue (Except ClientError String) := do
  return (← client.request .get key.propertiesPath none).map plainText

/-- Replace the grading properties of a submission. -/
def putProperties (client : Client) (key : SubmissionKey) (properties : Json) :
    Dialogue (Except ClientError Unit) := do
  let outcome ← client.request .put key.propertiesPath (some properties)
  return outcome.map fun _ => ()

/-- The record in a response. -/
def submissionOfText (text : String) : Except ClientError Submission :=
  (Json.readText Submission.reader text).mapError fun _ => .http

/-- Fetch the record of a submission. -/
def getSubmission (client : Client) (key : SubmissionKey) :
    Dialogue (Except ClientError Submission) := do
  let outcome ← client.request .get key.submissionPath none
  return outcome.bind submissionOfText

/-- Replace the record of a submission. -/
def putSubmission (client : Client) (key : SubmissionKey) (submission : Submission) :
    Dialogue (Except ClientError Unit) := do
  let outcome ← client.request .put key.submissionPath (some submission.toJson)
  return outcome.map fun _ => ()

end Client

end Gradebook
