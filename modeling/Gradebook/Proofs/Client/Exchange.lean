import Gradebook.Client.Network
import Gradebook.Client.Sync
import Gradebook.Proofs.Service.Answer

namespace Gradebook

/-!
# From the client to the service

A client that knows where the service listens reaches it with every request that
can be sent, unless a fault answers in its place.  Whether a request can be sent
depends on the token alone, so it is the same for all requests of a client.
-/

open SubmissionKey (mount)

namespace Client

/-- The authorization header that the client sends, if it can be sent at all. -/
def header? (client : Client) : Option (Option String) :=
  match client.token.map ("Bearer " ++ ·) with
  | none => some none
  | some value => (Network.header? value).map some

/-- The client knows the service that listens at an address. -/
def Knows (client : Client) (address : String) : Prop :=
  client.baseUrl = address ++ mount

end Client

namespace Network

/-! ## Requests of a client -/

theorem target?_append {address target : String} (relative : target.toList.head? = some '/')
    (plain : ∀ c ∈ target.toList, c ≠ '#') : target? address (address ++ target) = some target := by
  have whole : target.toList.takeWhile (· ≠ '#') = target.toList :=
    List.takeWhile_eq_self_iff.2 fun c listed => decide_eq_true (plain c listed)
  have dropped : (address ++ target).toList.drop address.length = target.toList := by
    rw [String.toList_append, ← String.length_toList, List.drop_left]
  have taken : (address ++ target).toList.take address.length = address.toList := by
    rw [String.toList_append, ← String.length_toList, List.take_left]
  unfold target?
  simp only [dropped, taken, whole, ne_eq, not_true_eq_false, if_false]
  cases text : target.toList with
  | nil =>
      rw [text] at relative
      cases relative
  | cons c rest =>
      rw [text] at relative
      cases Option.some.inj relative
      have same : String.ofList ('/' :: rest) = target := by
        rw [← text, String.ofList_toList]
      exact congrArg some same

variable {client : Client} {address : String} {key : SubmissionKey}

theorem plain_target {path : String} {segments : List (List Char)}
    (text : (mount ++ path).toList = Text.joined segments)
    (plain : ∀ segment ∈ segments, ∀ c ∈ segment, c ≠ '/' ∧ c ≠ '?' ∧ c ≠ '#' ∧ c ≠ '%') :
    ∀ c ∈ (mount ++ path).toList, c ≠ '#' := by
  intro c listed
  rw [text] at listed
  rcases Route.mem_joined listed with rfl | ⟨segment, listedSegment, inside⟩
  · decide
  · exact (plain segment listedSegment c inside).2.2.1

theorem request?_call (knows : client.Knows address) {path : String}
    (plain : ∀ c ∈ (mount ++ path).toList, c ≠ '#') (method : Method) (body : Option Json) :
    request? address (client.call method path body) =
      client.header?.map fun authorization =>
        ⟨method, mount ++ path, authorization, body.map fun _ => "application/json",
          (body.map Json.compress).getD ""⟩ := by
  have relative : (mount ++ path).toList.head? = some '/' := by
    rw [String.toList_append]
    rfl
  have reached : target? address (client.baseUrl ++ path) = some (mount ++ path) := by
    rw [knows, String.append_assoc]
    exact target?_append relative plain
  simp only [request?, Client.call, reached, Client.header?, Option.bind_eq_bind, Option.bind_some]
  cases client.token.map ("Bearer " ++ ·) with
  | none => rfl
  | some value =>
      dsimp only
      cases header? value with
      | none => rfl
      | some header => rfl

theorem plain_propertiesPath (key : SubmissionKey) :
    ∀ c ∈ (mount ++ key.propertiesPath).toList, c ≠ '#' :=
  plain_target key.propertiesPath_eq fun _ listed => SubmissionKey.plain_of_mem_segments listed

theorem request?_properties (knows : client.Knows address) (payload : Json) :
    request? address (client.call .put key.propertiesPath (some payload)) =
      client.header?.map fun authorization =>
        Service.propertiesRequest authorization key payload :=
  request?_call knows (plain_propertiesPath key) .put (some payload)

theorem plain_submissionPath (key : SubmissionKey) :
    ∀ c ∈ (mount ++ key.submissionPath).toList, c ≠ '#' :=
  plain_target key.submissionPath_eq fun _ listed =>
    SubmissionKey.plain_of_mem_segments (List.mem_append_left _ listed)

theorem request?_fetch (knows : client.Knows address) :
    request? address (client.call .get key.submissionPath none) =
      client.header?.map fun authorization => Service.fetchRequest authorization key :=
  request?_call knows (plain_submissionPath key) .get none

theorem request?_record (knows : client.Knows address) (submission : Submission) :
    request? address (client.call .put key.submissionPath (some submission.toJson)) =
      client.header?.map fun authorization =>
        Service.recordRequest authorization key submission :=
  request?_call knows (plain_submissionPath key) .put (some submission.toJson)

/-! ## Faults -/

/-- Whatever answers in place of the service reports a failure. -/
def Failing (faults : List Fault) : Prop :=
  ∀ fault ∈ faults, 400 ≤ fault.status ∧ fault.status < 600

theorem failing_tryFaults (request : Request) {faults : List Fault} (failing : Failing faults) :
    Failing (tryFaults request faults).2 ∧
      ∀ response, (tryFaults request faults).1 = some response → response.isSuccess = false := by
  induction faults with
  | nil => exact ⟨failing, nofun⟩
  | cons fault rest inductionHypothesis =>
      have failingOthers : Failing rest := fun other listed =>
        failing other (List.mem_cons_of_mem fault listed)
      have here := failing fault List.mem_cons_self
      have kept : ∀ changed : Fault, changed.status = fault.status → ∀ others, Failing others →
          Failing (changed :: others) := by
        intro changed same others failingOthers other listed
        rcases List.mem_cons.1 listed with rfl | later
        · rw [same]
          exact here
        · exact failingOthers other later
      have answers : ∀ body, (Response.mk fault.status none none body).isSuccess = false := by
        intro body
        have large : ¬ fault.status < 300 := by omega
        rw [Response.isSuccess, decide_eq_false large, Bool.and_false]
      obtain ⟨failingRest, answersRest⟩ := inductionHypothesis failingOthers
      unfold tryFaults
      dsimp only
      by_cases concerned : (!Fault.concerns fault request) = true
      · rw [if_pos concerned]
        exact ⟨kept fault rfl _ failingRest, answersRest⟩
      rw [if_neg concerned]
      by_cases skipped : 0 < fault.skip
      · rw [if_pos skipped]
        exact ⟨kept { fault with skip := fault.skip - 1 } rfl _ failingRest, answersRest⟩
      rw [if_neg skipped]
      by_cases spent : fault.times = some 0
      · rw [if_pos spent]
        exact ⟨kept fault rfl _ failingRest, answersRest⟩
      · rw [if_neg spent]
        refine ⟨kept { fault with times := fault.times.map (· - 1) } rfl _ failingOthers, ?_⟩
        rintro _ ⟨rfl⟩
        exact answers _

/-! ## One exchange -/

/-- A network after an exchange: the service listens where it did, and faults
still report failures. -/
structure Follows (after before : Network) : Prop where
  address : after.address = before.address
  failing : Failing after.faults
  faultless : before.faults = [] → after.faults = []

/-- An exchange fails and leaves the service alone, or it brings the service's own
response.  Without faults it fails only when the request cannot be sent. -/
theorem exchange_cases {network : Network} (call : Call) (listens : network.address = some address)
    (failing : Failing network.faults) :
    ∃ reply after, exchange call network = (reply, after) ∧ after.Follows network ∧
      (((∃ error, Client.successBody reply = .error error) ∧ after.service = network.service ∧
          (network.faults = [] → request? address call = none)) ∨
        ∃ request, request? address call = some request ∧
          reply = some (network.service.respond request).1 ∧
          after.service = (network.service.respond request).2) := by
  unfold exchange
  rw [listens, Option.bind_some]
  cases sent : request? address call with
  | none => exact ⟨_, _, rfl, ⟨rfl, failing, id⟩, .inl ⟨⟨_, rfl⟩, rfl, fun _ => rfl⟩⟩
  | some request =>
      obtain ⟨failingAfter, answers⟩ := failing_tryFaults request failing
      have faultless : network.faults = [] → tryFaults request network.faults = (none, []) := by
        intro none
        rw [none, tryFaults]
      dsimp only
      cases tried : tryFaults request network.faults with
      | mk response faults =>
          rw [tried] at failingAfter answers faultless
          cases response with
          | none =>
              exact ⟨_, _, rfl, ⟨listens.symm, failingAfter, fun none => (Prod.mk.inj (faultless none)).2⟩,
                .inr ⟨request, rfl, rfl, rfl⟩⟩
          | some response =>
              have answered : ∀ none, False := fun none =>
                Option.some_ne_none response (Prod.mk.inj (faultless none)).1
              refine ⟨_, _, rfl, ⟨listens.symm, failingAfter, fun none => (answered none).elim⟩,
                .inl ⟨⟨_, if_neg ?_⟩, rfl, fun none => (answered none).elim⟩⟩
              rw [answers response rfl]
              exact Bool.false_ne_true

end Network

/-! ## The exchanges of a save -/

/-- The client reaches the service along the network, on which nothing but failures
is answered in its place. -/
structure Connected (client : Client) (network : Network) : Prop where
  reaches : ∃ address, network.address = some address ∧ client.Knows address
  failing : Network.Failing network.faults

/-- The service lets the client in. -/
def Admits (service : Service) (client : Client) : Prop :=
  ∃ authorization, client.header? = some authorization ∧
    service.access.admits authorization = true

namespace Connected

variable {client : Client} {network after : Network} {key : SubmissionKey}

theorem follows (connected : Connected client network) (follows : after.Follows network) :
    Connected client after := by
  obtain ⟨address, listens, knows⟩ := connected.reaches
  exact ⟨⟨address, follows.address.trans listens, knows⟩, follows.failing⟩

/-- Replacing properties fails without effect, or the service holds what it
received. -/
theorem exchange_properties (connected : Connected client network) (key : SubmissionKey)
    (payload : Json) :
    ∃ reply after, Network.exchange (client.call .put key.propertiesPath (some payload)) network =
        (reply, after) ∧ after.Follows network ∧
      (((∃ error, Client.successBody reply = .error error) ∧ after.service = network.service) ∨
        (∃ body, Client.successBody reply = .ok body) ∧ Admits network.service client ∧
        ∃ stored properties, network.service.store.get? key = some stored ∧
          Service.received Json.keep payload = some properties ∧
          after.service = { network.service with
            store := network.service.store.modify key fun stored => { stored with properties } }) := by
  obtain ⟨address, listens, knows⟩ := connected.reaches
  obtain ⟨reply, after, exchanged, follows, ⟨failed, same, _⟩ | ⟨request, sent, rfl, served⟩⟩ :=
    Network.exchange_cases (client.call .put key.propertiesPath (some payload)) listens
      connected.failing
  · exact ⟨reply, after, exchanged, follows, .inl ⟨failed, same⟩⟩
  · rw [Network.request?_properties knows, Option.map_eq_some_iff] at sent
    obtain ⟨authorization, header, rfl⟩ := sent
    refine ⟨_, after, exchanged, follows, ?_⟩
    obtain ⟨response, next, responded, ⟨failed, rfl⟩ | ⟨succeeded, admitted, stored, properties,
      found, taken, rfl⟩⟩ := @Service.respond_properties network.service key authorization
        payload
    · rw [responded] at served ⊢
      exact .inl ⟨⟨_, if_neg (Bool.eq_false_iff.1 failed)⟩, served⟩
    · rw [responded] at served ⊢
      exact .inr ⟨⟨_, if_pos succeeded⟩, ⟨authorization, header, admitted⟩, stored, properties,
        found, taken, served⟩

/-- A record that is fetched comes as its text, unless a fault prevents it. -/
theorem exchange_fetch (connected : Connected client network)
    (admitted : Admits network.service client) {stored : StoredSubmission}
    (found : network.service.store.get? key = some stored) :
    ∃ reply after, Network.exchange (client.call .get key.submissionPath none) network =
        (reply, after) ∧ after.Follows network ∧ after.service = network.service ∧
      ((network.faults ≠ [] ∧ ∃ error, Client.successBody reply = .error error) ∨
        Client.successBody reply = .ok stored.submission.toJson.compress) := by
  obtain ⟨address, listens, knows⟩ := connected.reaches
  obtain ⟨authorization, header, admits⟩ := admitted
  have sendable := @Network.request?_fetch _ _ key knows
  rw [header, Option.map_some] at sendable
  obtain ⟨reply, after, exchanged, follows, ⟨failed, same, unsent⟩ | ⟨request, sent, rfl, served⟩⟩ :=
    Network.exchange_cases (client.call .get key.submissionPath none) listens
      connected.failing
  · refine ⟨reply, after, exchanged, follows, same, .inl ⟨fun faultless => ?_, failed⟩⟩
    cases sendable.symm.trans (unsent faultless)
  · cases Option.some.inj (sendable.symm.trans sent)
    rw [Service.respond_fetch stored found admits] at served exchanged
    exact ⟨_, after, exchanged, follows, served, .inr rfl⟩

/-- Replacing a record fails without effect, or the service holds what it
received.  Without faults it fails only when nothing with the right id is received. -/
theorem exchange_record (connected : Connected client network)
    (admitted : Admits network.service client) {stored : StoredSubmission}
    (found : network.service.store.get? key = some stored) (submission : Submission) :
    ∃ reply after,
      Network.exchange (client.call .put key.submissionPath (some submission.toJson)) network =
        (reply, after) ∧ after.Follows network ∧
      (((∃ error, Client.successBody reply = .error error) ∧ after.service = network.service ∧
          (network.faults = [] →
            ∀ record, Service.received Submission.reader submission.toJson = some record →
              record.id ≠ key.submission)) ∨
        (∃ body, Client.successBody reply = .ok body) ∧
        ∃ record, Service.received Submission.reader submission.toJson = some record ∧
          after.service = { network.service with
            store := network.service.store.modify key fun stored =>
              { stored with submission := record } }) := by
  obtain ⟨address, listens, knows⟩ := connected.reaches
  obtain ⟨authorization, header, admits⟩ := admitted
  have sendable := @Network.request?_record _ _ key knows submission
  rw [header, Option.map_some] at sendable
  obtain ⟨reply, after, exchanged, follows, ⟨failed, same, unsent⟩ | ⟨request, sent, rfl, served⟩⟩ :=
    Network.exchange_cases
      (client.call .put key.submissionPath (some submission.toJson)) listens
      connected.failing
  · refine ⟨reply, after, exchanged, follows, .inl ⟨failed, same, fun faultless => ?_⟩⟩
    cases sendable.symm.trans (unsent faultless)
  · cases Option.some.inj (sendable.symm.trans sent)
    refine ⟨_, after, exchanged, follows, ?_⟩
    obtain ⟨response, next, responded, ⟨failed, untaken, rfl⟩ | ⟨succeeded, record, taken, rfl⟩⟩ :=
      Service.respond_record found admits
    · rw [responded] at served ⊢
      exact .inl ⟨⟨_, if_neg (Bool.eq_false_iff.1 failed)⟩, served, fun _ => untaken⟩
    · rw [responded] at served ⊢
      exact .inr ⟨⟨_, if_pos succeeded⟩, record, taken, served⟩

end Connected

end Gradebook
