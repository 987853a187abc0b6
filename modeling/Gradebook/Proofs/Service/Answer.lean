import Gradebook.Proofs.Json.Durable
import Gradebook.Proofs.Service.Route
import Gradebook.Proofs.Service.Store
import Gradebook.Service.Basic

namespace Gradebook

namespace Service

/-!
# What the service answers a client

A client sends three kinds of requests while it saves a ledger.  Each changes the
store in one place or not at all, and whether it did is seen from the status of
the response.
-/

open SubmissionKey (mount)

variable {service : Service} {key : SubmissionKey} {authorization : Option String}

/-! ## Access -/

/-- The response to whoever does not bear the token. -/
def refused : Response := { Response.bare 401 with allow := none }

theorem knows_of_guarded {route : Route} (guarded : isOpen route = false) :
    knows route .put = true := by
  cases route with
  | health => cases guarded
  | submission path | properties path => rfl

theorem respond_get {target : String} {route : Route} (leads : Route.ofTarget? target = some route)
    (guarded : isOpen route = false) (content : Option String) (body : String) :
    service.respond ⟨.get, target, authorization, content, body⟩ =
      (if service.access.admits authorization then read service.store route else refused,
        service) := by
  simp only [respond, leads, respondAt, knows, guarded, reduceCtorEq, if_false, if_true,
    Bool.not_false, Bool.true_and, Bool.not_eq_true']
  cases service.access.admits authorization with
  | true => rfl
  | false => rfl

theorem respond_put {target : String} {route : Route} (leads : Route.ofTarget? target = some route)
    (guarded : isOpen route = false) (content : Option String) (body : String) :
    service.respond ⟨.put, target, authorization, content, body⟩ =
      if service.access.admits authorization then
        ((write service.store ⟨.put, target, authorization, content, body⟩ route).1,
          { service with
            store := (write service.store ⟨.put, target, authorization, content, body⟩ route).2 })
      else (refused, service) := by
  simp only [respond, leads, respondAt, knows_of_guarded guarded, guarded, reduceCtorEq, if_false,
    if_true, Bool.not_false, Bool.true_and, Bool.not_eq_true', Bool.false_eq_true]
  cases service.access.admits authorization with
  | true => rfl
  | false => rfl

/-! ## Bodies -/

/-- What the service makes of a value that it is sent: it takes texts up to some
size, and reads what they hold. -/
def received {α : Type} (reader : Json.Reader α) (value : Json) : Option α :=
  if maximalBodySize < value.compress.utf8ByteSize then none
  else (Json.readText reader value.compress).toOption

theorem received_eq_some_iff {α : Type} {reader : Json.Reader α} {value : Json} {a : α} :
    received reader value = some a ↔
      value.compress.utf8ByteSize ≤ maximalBodySize ∧
        Json.readText reader value.compress = .ok a := by
  unfold received
  by_cases large : maximalBodySize < value.compress.utf8ByteSize
  · rw [if_pos large]
    constructor
    · intro impossible
      cases impossible
    · rintro ⟨small, _⟩
      exact absurd small (Nat.not_le_of_lt large)
  · rw [if_neg large, and_iff_right (Nat.le_of_not_lt large)]
    cases Json.readText reader value.compress with
    | ok b => simp only [Except.toOption, Option.some.injEq, Except.ok.injEq]
    | error error => simp only [Except.toOption, reduceCtorEq]

/-- A body is read just when it is received, and otherwise the response says so. -/
theorem readBody_cases {α : Type} (reader : Json.Reader α) (value : Json) (method : Method)
    (target : String) :
    (∃ a, received reader value = some a ∧ readBody reader
      ⟨method, target, authorization, some "application/json", value.compress⟩ = .ok a) ∨
    (received reader value = none ∧ ∃ response, response.isSuccess = false ∧ readBody reader
      ⟨method, target, authorization, some "application/json", value.compress⟩ =
        .error response) := by
  have json : ((((some "application/json").filter Access.isReadable).bind
      MediaType.ofText?).map MediaType.isJson).getD false = true := by decide
  simp only [readBody, json, if_true, received]
  by_cases large : maximalBodySize < value.compress.utf8ByteSize
  · right
    simp only [if_pos large]
    exact ⟨trivial, _, rfl, rfl⟩
  · simp only [if_neg large]
    cases Json.readText reader value.compress with
    | ok a => exact .inl ⟨a, rfl, rfl⟩
    | error error =>
        cases error with
        | mismatch mismatch => exact .inr ⟨rfl, _, rfl, rfl⟩
        | damaged damage => exact .inr ⟨rfl, _, rfl, rfl⟩

/-! ## The requests of a save -/

/-- The request that replaces grading properties. -/
def propertiesRequest (authorization : Option String) (key : SubmissionKey) (payload : Json) :
    Request :=
  ⟨.put, mount ++ key.propertiesPath, authorization, some "application/json", payload.compress⟩

/-- The request that fetches a record. -/
def fetchRequest (authorization : Option String) (key : SubmissionKey) : Request :=
  ⟨.get, mount ++ key.submissionPath, authorization, none, ""⟩

/-- The request that replaces a record. -/
def recordRequest (authorization : Option String) (key : SubmissionKey) (submission : Submission) :
    Request :=
  ⟨.put, mount ++ key.submissionPath, authorization, some "application/json",
    submission.toJson.compress⟩

/-- Properties are replaced by what is received, or nothing happens. -/
theorem respond_properties (payload : Json) :
    ∃ response after, service.respond (propertiesRequest authorization key payload) =
        (response, after) ∧
      ((response.isSuccess = false ∧ after = service) ∨
        response.isSuccess = true ∧ service.access.admits authorization = true ∧
        ∃ stored properties, service.store.get? key = some stored ∧
          received Json.keep payload = some properties ∧
          after = { service with
            store := service.store.modify key fun stored => { stored with properties } }) := by
  unfold propertiesRequest
  rw [respond_put (Route.ofTarget?_properties key) rfl]
  by_cases admitted : service.access.admits authorization = true
  · rw [if_pos admitted]
    refine ⟨_, _, rfl, ?_⟩
    simp only [write, PathKey.toKey_written]
    obtain ⟨properties, taken, read⟩ | ⟨_, response, failed, read⟩ :=
      readBody_cases Json.keep payload .put (mount ++ key.propertiesPath)
    · rw [read]
      dsimp only
      unfold putProperties
      split
      · exact .inl ⟨rfl, rfl⟩
      · exact .inl ⟨rfl, rfl⟩
      · cases found : service.store.get? key with
        | none =>
            left
            simp only [Store.setProperties?, found]
            exact ⟨rfl, trivial⟩
        | some stored =>
            right
            simp only [Store.setProperties?_of_get? found]
            exact ⟨rfl, admitted, stored, properties, rfl, taken, rfl⟩
    · rw [read]
      exact .inl ⟨failed, rfl⟩
  · rw [if_neg admitted]
    exact ⟨_, _, rfl, .inl ⟨rfl, rfl⟩⟩

/-- A record that is fetched stays as it is. -/
theorem respond_fetch (stored : StoredSubmission) (found : service.store.get? key = some stored)
    (admitted : service.access.admits authorization = true) :
    service.respond (fetchRequest authorization key) = (.json stored.submission.toJson, service) := by
  unfold fetchRequest
  rw [respond_get (Route.ofTarget?_submission key) rfl, if_pos admitted]
  simp only [read, PathKey.toKey_written, getSubmission, found]

/-- A record is replaced by what is received, and if nothing with the right id is received,
nothing happens. -/
theorem respond_record {submission : Submission} {stored : StoredSubmission}
    (found : service.store.get? key = some stored)
    (admitted : service.access.admits authorization = true) :
    ∃ response after, service.respond (recordRequest authorization key submission) =
        (response, after) ∧
      ((response.isSuccess = false ∧
          (∀ record, received Submission.reader submission.toJson = some record →
            record.id ≠ key.submission) ∧
          after = service) ∨
        response.isSuccess = true ∧ ∃ record,
          received Submission.reader submission.toJson = some record ∧
          after = { service with
            store := service.store.modify key fun stored =>
              { stored with submission := record } }) := by
  unfold recordRequest
  rw [respond_put (Route.ofTarget?_submission key) rfl, if_pos admitted]
  refine ⟨_, _, rfl, ?_⟩
  simp only [write, PathKey.toKey_written]
  obtain ⟨record, taken, read⟩ | ⟨untaken, response, failed, read⟩ :=
    readBody_cases Submission.reader submission.toJson .put (mount ++ key.submissionPath)
  · rw [read]
    by_cases named : record.id ≠ key.submission
    · simp only [putSubmission, if_pos named]
      refine .inl ⟨rfl, ?_, trivial⟩
      intro other takenOther
      cases taken.symm.trans takenOther
      exact named
    · simp only [putSubmission, if_neg named, Store.setSubmission?_of_get? found]
      exact .inr ⟨rfl, record, taken, rfl⟩
  · rw [read]
    refine .inl ⟨failed, ?_, rfl⟩
    intro record taken
    cases untaken.symm.trans taken

end Service

end Gradebook
