import Gradebook.Proofs.Client.Saving
import Gradebook.Proofs.Service.Replacement

namespace Gradebook

/-!
# How calls are answered

A call reaches the service or it does not, and the reply tells which part of which
submission has been replaced, if any has.  The calls of a client that loads or saves name
one submission each, so whatever is done to them concerns this submission alone.
-/

/-! ## Exchanges with a service -/

namespace Network

variable {address : String} {network : Network} {service : Service} {call : Call} {reply : Reply}

/-- The replacement that an exchange has brought about, as the reply tells. -/
def replaced? (address : String) (call : Call) (reply : Reply) : Option Replacement :=
  (request? address call).bind fun request => reply.bind (Service.replaced? request)

/-- Whether a reply is a failure or the response of a service. -/
def Answers (address : String) (service : Service) (call : Call) (reply : Reply) : Prop :=
  (∃ error, Client.successBody reply = .error error) ∨
    ∃ request, request? address call = some request ∧ reply = some (service.respond request).1

theorem isSuccess_of_successBody {response : Response} {body : String}
    (succeeded : Client.successBody (some response) = .ok body) :
    response.isSuccess = true ∧ response.body = body := by
  simp only [Client.successBody] at succeeded
  split_ifs at succeeded with success
  exact ⟨success, Except.ok.inj succeeded⟩

/-- A failure reports no replacement. -/
theorem replaced?_of_error {error : ClientError} (failed : Client.successBody reply = .error error) :
    replaced? address call reply = none := by
  unfold replaced?
  cases request? address call with
  | none => rfl
  | some request =>
      cases reply with
      | none => rfl
      | some response =>
          apply Service.replaced?_of_idle
          right
          cases success : response.isSuccess with
          | false => rfl
          | true => cases (if_pos success).symm.trans failed

/-- What a reply reports has been made by the service that answered. -/
theorem Answers.answered (answers : Answers address service call reply)
    {replacement : Replacement} (reported : replaced? address call reply = some replacement) :
    ∃ request response, request? address call = some request ∧ reply = some response ∧
      response = (service.respond request).1 ∧ Service.replaced? request response = some replacement := by
  rcases answers with ⟨error, failed⟩ | ⟨request, sent, rfl⟩
  · cases (replaced?_of_error failed).symm.trans reported
  · rw [replaced?, sent] at reported
    exact ⟨request, _, sent, rfl, rfl, reported⟩

theorem eq_of_request? {request : Request} (sent : request? address call = some request) :
    request.method = call.method ∧ request.body = call.body := by
  simp only [request?, Option.bind_eq_bind] at sent
  rcases Option.bind_eq_some_iff.1 sent with ⟨target, _, sent⟩
  split at sent
  · cases sent
    exact ⟨rfl, rfl⟩
  · rcases Option.bind_eq_some_iff.1 sent with ⟨authorization, _, ⟨rfl⟩⟩
    exact ⟨rfl, rfl⟩

theorem Answers.fits (answers : Answers address service call reply) {replacement : Replacement}
    (reported : replaced? address call reply = some replacement) :
    replacement.part.Fits replacement.key ∧ replacement.key ∈ service.store.keys ∧
      call.body.utf8ByteSize ≤ Service.maximalBodySize := by
  rcases answers.answered reported with ⟨request, _, sent, _, rfl, made⟩
  rw [← (eq_of_request? sent).2]
  exact (Service.answered_respond service request).2.fits replacement made

/-- An exchange is answered, and the service makes the replacement that the reply
reports and nothing else. -/
theorem exchange_replaces (call : Call) (listens : network.address = some address)
    (failing : Failing network.faults) :
    ∃ reply after, exchange call network = (reply, after) ∧ after.Follows network ∧
      Answers address network.service call reply ∧
      after.service = { network.service with
        store := network.service.store.replaceAll (replaced? address call reply).toList } := by
  rcases exchange_cases call listens failing with
    ⟨reply, after, exchanged, follows, ⟨⟨error, failed⟩, same, _⟩ | ⟨request, sent, rfl, served⟩⟩
  · refine ⟨reply, after, exchanged, follows, .inl ⟨error, failed⟩, ?_⟩
    rw [same, replaced?_of_error failed]
    rfl
  · refine ⟨_, after, exchanged, follows, .inr ⟨request, sent, rfl⟩, ?_⟩
    rcases Service.answered_respond network.service request with ⟨access, answered⟩
    have reports : replaced? address call (some (network.service.respond request).1) =
        Service.replaced? request (network.service.respond request).1 := by
      rw [replaced?, sent]
      rfl
    rw [served, reports]
    exact Service.ext access answered.store

/-- Without faults whatever can be sent is answered by the service. -/
theorem exchange_of_faultless (call : Call) (listens : network.address = some address)
    (faultless : network.faults = []) :
    (exchange call network).1 =
      (request? address call).map fun request => (network.service.respond request).1 := by
  unfold exchange
  rw [listens, Option.bind_some, faultless]
  cases request? address call with
  | none => rfl
  | some request => rfl

theorem Follows.trans {first middle last : Network} (later : last.Follows middle)
    (earlier : middle.Follows first) : last.Follows first where
  address := later.address.trans earlier.address
  failing := later.failing
  faultless none := later.faultless (earlier.faultless none)

end Network

theorem Service.asked_of_replaced? {request : Request} {response : Response}
    {replacement : Replacement} (made : replaced? request response = some replacement) :
    request.method = .put ∧ request.replacement? = some replacement := by
  unfold replaced? at made
  split_ifs at made with reported
  exact ⟨reported.1, made⟩

/-! ## What is sent for a submission -/

namespace Network

variable {client : Client} {address : String} {service : Service} {key : SubmissionKey}
  {reply : Reply} {replacement : Replacement}

/-- Whether all that a call becomes at an address names a place. -/
def Names (address : String) (call : Call) (place : Place) : Prop :=
  ∀ request, request? address call = some request → request.place? = some place

theorem names_properties (knows : client.Knows address) {method : Method} {body : Option Json} :
    Names address (client.call method key.propertiesPath body) ⟨key, .properties⟩ := by
  intro request sent
  rw [request?_call knows (plain_propertiesPath key), Option.map_eq_some_iff] at sent
  rcases sent with ⟨authorization, _, rfl⟩
  exact Request.place?_properties rfl

theorem names_record (knows : client.Knows address) {method : Method} {body : Option Json} :
    Names address (client.call method key.submissionPath body) ⟨key, .record⟩ := by
  intro request sent
  rw [request?_call knows (plain_submissionPath key), Option.map_eq_some_iff] at sent
  rcases sent with ⟨authorization, _, rfl⟩
  exact Request.place?_record rfl

/-- What has been replaced is what the body holds, which was not too large. -/
theorem Answers.holds {call : Call} {place : Place}
    (names : Names address call place) (answers : Answers address service call reply)
    (reported : replaced? address call reply = some replacement) :
    ∃ part, replacement = ⟨place.key, part⟩ ∧ Part.ofBody? call.body place.aspect = some part ∧
      call.body.utf8ByteSize ≤ Service.maximalBodySize := by
  have small := (answers.fits reported).2.2
  rcases answers.answered reported with ⟨request, response, sent, _, _, made⟩
  have asked := (Service.asked_of_replaced? made).2
  rw [Request.replacement?, names request sent, Option.bind_some, (eq_of_request? sent).2] at asked
  rcases Option.map_eq_some_iff.1 asked with ⟨part, held, rfl⟩
  exact ⟨part, rfl, held, small⟩

theorem received_of_small {α : Type} {reader : Json.Reader α} {value : Json} {a : α}
    (small : value.compress.utf8ByteSize ≤ Service.maximalBodySize)
    (read : (Json.readText reader value.compress).toOption = some a) :
    Service.received reader value = some a := by
  rw [Service.received, if_neg (Nat.not_lt_of_le small), read]

/-- Properties that have been replaced are what was received. -/
theorem Answers.properties (knows : client.Knows address) {payload : Json}
    (answers : Answers address service (client.call .put key.propertiesPath (some payload)) reply)
    (reported : replaced? address (client.call .put key.propertiesPath (some payload)) reply =
      some replacement) :
    ∃ properties, replacement = ⟨key, .properties properties⟩ ∧
      Service.received Json.keep payload = some properties := by
  rcases answers.holds (names_properties knows) reported with ⟨part, rfl, held, small⟩
  rcases Option.map_eq_some_iff.1 held with ⟨properties, read, rfl⟩
  exact ⟨properties, rfl, received_of_small small read⟩

/-- A record that has been replaced is what was received. -/
theorem Answers.record (knows : client.Knows address) {submission : Submission}
    (answers : Answers address service
      (client.call .put key.submissionPath (some submission.toJson)) reply)
    (reported : replaced? address (client.call .put key.submissionPath (some submission.toJson))
      reply = some replacement) :
    ∃ record, replacement = ⟨key, .record record⟩ ∧
      Service.received Submission.reader submission.toJson = some record := by
  rcases answers.holds (names_record knows) reported with ⟨part, rfl, held, small⟩
  rcases Option.map_eq_some_iff.1 held with ⟨record, read, rfl⟩
  exact ⟨record, rfl, received_of_small small read⟩

/-- What names one submission leaves another alone. -/
theorem get?_exchange_of_ne {network : Network} {call : Call} {place : Place}
    (listens : network.address = some address) (failing : Failing network.faults)
    (names : Names address call place) {other : SubmissionKey} (different : place.key ≠ other) :
    (exchange call network).2.service.store.get? other = network.service.store.get? other := by
  rcases exchange_replaces call listens failing with
    ⟨reply, after, exchanged, _, answers, served⟩
  rw [exchanged, served]
  apply Store.get?_replaceAll_of_ne
  intro replacement reported
  rcases answers.holds names (Option.mem_toList.1 reported) with ⟨part, rfl, _⟩
  exact different

/-- Without faults two networks that agree on a submission reply the same to what names it,
and agree on it afterwards. -/
theorem exchange_congr {left right : Network} {call : Call} {place : Place}
    (listensLeft : left.address = some address) (listensRight : right.address = some address)
    (faultlessLeft : left.faults = []) (faultlessRight : right.faults = [])
    (names : Names address call place) (access : left.service.access = right.service.access)
    (same : left.service.store.get? place.key = right.service.store.get? place.key) :
    (exchange call left).1 = (exchange call right).1 ∧
      (exchange call left).2.service.store.get? place.key =
        (exchange call right).2.service.store.get? place.key := by
  have failingLeft : Failing left.faults := faultlessLeft ▸ nofun
  have failingRight : Failing right.faults := faultlessRight ▸ nofun
  have replies : (exchange call left).1 = (exchange call right).1 := by
    rw [exchange_of_faultless call listensLeft faultlessLeft,
      exchange_of_faultless call listensRight faultlessRight]
    cases sent : request? address call with
    | none => rfl
    | some request =>
        exact congrArg some (Service.respond_congr (names request sent) access same)
  refine ⟨replies, ?_⟩
  rcases exchange_replaces call listensLeft failingLeft with
    ⟨_, _, exchangedLeft, _, _, servedLeft⟩
  rcases exchange_replaces call listensRight failingRight with
    ⟨_, _, exchangedRight, _, _, servedRight⟩
  rw [exchangedLeft, exchangedRight] at replies ⊢
  dsimp only at replies ⊢
  rw [servedLeft, servedRight, replies]
  exact Store.get?_replaceAll_congr same _

/-- A request for reading replaces nothing. -/
theorem replaced?_of_get {call : Call} (get : call.method = .get) :
    replaced? address call reply = none := by
  unfold replaced?
  cases sent : request? address call with
  | none => rfl
  | some request =>
      cases reply with
      | none => rfl
      | some response =>
          have idle : request.method ≠ .put := by
            rw [(eq_of_request? sent).1, get]
            nofun
          exact Service.replaced?_of_idle (.inl idle)

/-- What has been read is what stood in the place. -/
theorem Answers.part {call : Call} {place : Place} {body : String} (get : call.method = .get)
    (names : Names address call place) (answers : Answers address service call reply)
    (succeeded : Client.successBody reply = .ok body) :
    ∃ part, service.store.part? place = some part ∧ body = part.toJson.compress := by
  rcases answers with ⟨error, failed⟩ | ⟨request, sent, rfl⟩
  · cases failed.symm.trans succeeded
  rcases isSuccess_of_successBody succeeded with ⟨success, rfl⟩
  have method := (eq_of_request? sent).1.trans get
  have named := names request sent
  rcases Service.respond_of_get method success with health | ⟨here, part, same, found, answer⟩
  · rw [Request.place?, health] at named
    cases named
  · cases Option.some.inj (named.symm.trans same)
    refine ⟨part, found, ?_⟩
    rw [answer]
    rfl

/-- A record that has been fetched is the one that stood there. -/
theorem Answers.fetch (knows : client.Knows address) {body : String}
    (answers : Answers address service (client.call .get key.submissionPath none) reply)
    (succeeded : Client.successBody reply = .ok body) :
    ∃ stood, service.store.part? ⟨key, .record⟩ = some (.record stood) ∧
      body = stood.toJson.compress := by
  rcases answers.part rfl (names_record knows) succeeded with ⟨part, found, rfl⟩
  rcases Option.map_eq_some_iff.1 found with ⟨stored, _, rfl⟩
  exact ⟨stored.submission, found, rfl⟩

/-- Properties that have been fetched are those that stood there. -/
theorem Answers.load (knows : client.Knows address) {body : String}
    (answers : Answers address service (client.call .get key.propertiesPath none) reply)
    (succeeded : Client.successBody reply = .ok body) :
    ∃ stored, service.store.get? key = some stored ∧ body = stored.properties.compress := by
  rcases answers.part rfl (names_properties knows) succeeded with ⟨part, found, rfl⟩
  rcases Option.map_eq_some_iff.1 found with ⟨stored, here, rfl⟩
  exact ⟨stored, here, rfl⟩

/-- A success of a request for writing reports a replacement. -/
theorem Answers.reports {call : Call} {body : String} (put : call.method = .put)
    (answers : Answers address service call reply)
    (succeeded : Client.successBody reply = .ok body) :
    ∃ replacement, replaced? address call reply = some replacement := by
  rcases answers with ⟨error, failed⟩ | ⟨request, sent, rfl⟩
  · cases failed.symm.trans succeeded
  have success := (isSuccess_of_successBody succeeded).1
  rcases (Service.answered_respond service request).2.reports
    ((eq_of_request? sent).1.trans put) success with ⟨replacement, reported⟩
  refine ⟨replacement, ?_⟩
  rw [replaced?, sent]
  exact reported

end Network

/-! ## The calls of a save -/

namespace Sync

variable {sync : Sync} {key : SubmissionKey} {ledger : Ledger}

/-- What a save asks first. -/
def propertiesCall (sync : Sync) (key : SubmissionKey) (ledger : Ledger) : Call :=
  sync.client.call .put key.propertiesPath (some ledger.toJson)

/-- What a save asks next. -/
def fetchCall (sync : Sync) (key : SubmissionKey) : Call :=
  sync.client.call .get key.submissionPath none

/-- What a save asks last. -/
def recordCall (sync : Sync) (key : SubmissionKey) (fetched : Submission) : Call :=
  sync.client.call .put key.submissionPath (some fetched.graded.toJson)

/-- The record that a reply brings. -/
def fetchedRecord (reply : Reply) : Except ClientError Submission :=
  (Client.successBody reply).bind Client.submissionOfText

theorem fetchedRecord_eq_ok_iff {reply : Reply} {fetched : Submission} :
    fetchedRecord reply = .ok fetched ↔ ∃ body, Client.successBody reply = .ok body ∧
      Json.readText Submission.reader body = .ok fetched := by
  unfold fetchedRecord
  cases Client.successBody reply with
  | error error => simp only [Except.bind, reduceCtorEq, false_and, exists_false]
  | ok body =>
      simp only [Except.bind, Client.submissionOfText, Outcome.mapError_eq_ok, Except.ok.injEq,
        exists_eq_left']

/-- A save that is permitted, call by call. -/
theorem save_of_permitted (permitted : sync.authorize key = .ok ()) :
    sync.save key ledger =
      .ask (sync.propertiesCall key ledger) fun stored =>
        match Client.successBody stored with
        | .error error => .done (.error (.fetch error))
        | .ok _ => .ask (sync.fetchCall key) fun answer =>
          match fetchedRecord answer with
          | .error error => .done (.error (.statusUpdate error))
          | .ok fetched => .ask (sync.recordCall key fetched) fun last =>
            .done (((Client.successBody last).map fun _ => ()).mapError .statusUpdate) := by
  rw [save_eq, permitted]
  apply congrArg (Dialogue.ask (sync.propertiesCall key ledger))
  funext stored
  cases Client.successBody stored with
  | error error => rfl
  | ok body =>
      rw [markGraded_eq]
      apply congrArg (Dialogue.ask (sync.fetchCall key))
      funext answer
      change Dialogue.bind (match fetchedRecord answer with
        | .error error => _
        | .ok fetched => _) _ = _
      cases fetchedRecord answer with
      | error error => rfl
      | ok fetched => rfl

end Sync

end Gradebook
