import Gradebook.Proofs.Client.Loading
import Gradebook.Proofs.Client.Saving
import Gradebook.Proofs.Ledger.Depth
import Gradebook.Proofs.Ledger.Durable
import Gradebook.Proofs.Service.History

namespace Gradebook

/-!
# Loading and saving without an edit

The payload of a submission is read twice in two ways.  The client reads its text,
and the service reads as a value what it kept of a text.  For a durable payload the
two agree (`Ledger.ofText_compress_eq_ok_iff`), and the ledger writes the payload
again.  So a ledger that was loaded and is saved at once puts back what was there,
and the submission differs in its status alone.

What is assumed of texts is collected in `StoredSubmission.Transfers`: the text of a
value that is not nested too deeply is read as this value, and bodies are not too
large.  For the record it is assumed of the single values that it carries along; that
the record as a whole comes back is derived.

The theorems `Sync.run_load_of_deep` and `Sync.run_save_of_deep` say what happens to
what is nested too deeply: such properties cannot be loaded, and a save over such a
record stores the properties, leaves the record alone and reports this.
-/

/-! ## Tokens -/

/-- The service and the client agree about the token. -/
inductive Trusts (service : Service) (client : Client) : Prop
  /-- The service asks for none, and what the client sends all the same can be sent. -/
  | unprotected (free : service.access.token = none) (sendable : client.header?.isSome)
  /-- They share one, of visible characters. -/
  | shared {token : String} (asked : service.access.token = some token)
    (held : client.token = some token) (nonempty : token ≠ "")
    (visible : ∀ c ∈ token.toList, 0x21 ≤ c.toNat ∧ c.toNat ≤ 0x7E)

namespace Network

/-- A header with a visible token is sent as it is. -/
theorem header?_of_visible {token : String} (nonempty : token ≠ "")
    (visible : ∀ c ∈ token.toList, 0x21 ≤ c.toNat ∧ c.toNat ≤ 0x7E) :
    header? (Access.scheme ++ token) = some (Access.scheme ++ token) := by
  have sendable : (Access.scheme ++ token).toList.all
      (fun c => c = '\t' || (0x20 ≤ c.toNat && c.toNat ≠ 0x7F)) = true := by
    rw [String.toList_append, List.all_append, Bool.and_eq_true]
    refine ⟨by decide, List.all_eq_true.2 fun c listed => ?_⟩
    have bounds := visible c listed
    simp only [Bool.or_eq_true, Bool.and_eq_true, decide_eq_true_eq]
    omega
  -- the first character is that of the scheme and the last one that of the token
  have front : (Access.scheme ++ token).toList.dropWhile (fun c => c = ' ' || c = '\t') =
      (Access.scheme ++ token).toList := by
    rw [String.toList_append]
    rfl
  have back : (Access.scheme ++ token).toList.reverse.dropWhile (fun c => c = ' ' || c = '\t') =
      (Access.scheme ++ token).toList.reverse := by
    rw [String.toList_append, List.reverse_append]
    cases reversed : token.toList.reverse with
    | nil => exact absurd (String.toList_eq_nil_iff.1 (List.reverse_eq_nil_iff.1 reversed)) nonempty
    | cons last others =>
        have listed : last ∈ token.toList := List.mem_reverse.1 (reversed ▸ List.mem_cons_self)
        have bounds := visible last listed
        apply List.dropWhile_cons_of_neg
        simp only [Bool.or_eq_true, decide_eq_true_eq, not_or]
        constructor
        · rintro rfl
          exact absurd bounds.1 (by decide)
        · rintro rfl
          exact absurd bounds.1 (by decide)
  rw [header?, if_pos sendable]
  dsimp only
  rw [front, back, List.reverse_reverse, String.ofList_toList]

end Network

namespace Trusts

theorem admits {service : Service} {client : Client} (trusts : Trusts service client) :
    Admits service client := by
  cases trusts with
  | unprotected free sendable =>
      rcases Option.isSome_iff_exists.1 sendable with ⟨authorization, sent⟩
      refine ⟨authorization, sent, ?_⟩
      simp only [Access.admits, Access.accepts, free]
  | @shared token asked held nonempty visible =>
      refine ⟨some (Access.scheme ++ token), ?_, ?_⟩
      · rw [Client.header?, held]
        change (Network.header? (Access.scheme ++ token)).map some = _
        rw [Network.header?_of_visible nonempty visible, Option.map_some]
      · have readable : Access.isReadable (Access.scheme ++ token) = true := by
          rw [Access.isReadable, String.toList_append, List.all_append, Bool.and_eq_true]
          refine ⟨by decide, List.all_eq_true.2 fun c listed => ?_⟩
          have bounds := visible c listed
          simp only [Bool.or_eq_true, Bool.and_eq_true, decide_eq_true_eq]
          omega
        simp only [Access.admits, Option.filter_some, readable, if_true, Access.accepts, asked,
          decide_true]

end Trusts

/-! ## Ledgers of texts and of values -/

namespace Ledger

variable {payload : Json} {ledger : Ledger}

/-- The text of a durable payload is read as the payload is. -/
theorem ofText_compress_eq_ok_iff (canonical : payload.Canonical) (durable : payload.Durable) :
    ofText payload.compress = .ok ledger ↔ ofJson payload = .ok ledger := by
  constructor
  · intro read
    have same := toJson_of_ofText canonical durable read
    have back := ofJson_toJson (.ofText read) (same ▸ durable.plain)
    rwa [same] at back
  · intro read
    have unbounded : Json.Origin.value.Allows payload.depth := trivial
    have allowed : (Json.Origin.text Json.maximalDepth).Allows payload.depth := durable.shallow
    have reachable : ledger.Reachable := .ofJson read
    rw [ofJson, Json.readValue, Json.toDocument_eq_spelled] at read
    have same : ledger.toJson = payload := (shape.toJson_eq_iff unbounded canonical read).2
      fun value uninterpreted => plain_of_uninterpreted durable.plain uninterpreted
    rw [ofText, Json.readText_compress, Json.written_of_steady payload durable.steady, ← same]
    rw [← same] at allowed durable
    exact (shape.read_toJson_iff Json.spellWritten allowed fun value carried =>
      reachable.canonical carried).2 fun value carried =>
        plain_of_uninterpreted durable.plain (uninterpreted_of_carries carried)

/-- A ledger that is read from a durable payload writes it again. -/
theorem toJson_of_ofJson (canonical : payload.Canonical) (durable : payload.Durable)
    (read : ofJson payload = .ok ledger) : ledger.toJson = payload :=
  toJson_of_ofText canonical durable ((ofText_compress_eq_ok_iff canonical durable).2 read)

/-- The text of a payload is read as the payload is, just when it is not nested too deeply. -/
theorem ofText_compress_eq_ok_iff_of_readsBack (canonical : payload.Canonical)
    (readsBack : Json.ReadsBack Json.keep id payload) :
    ofText payload.compress = .ok ledger ↔
      payload.depth ≤ Json.maximalDepth ∧ ofJson payload = .ok ledger := by
  constructor
  · intro read
    have durable := readsBack.durable canonical bounds_reader read
    exact ⟨durable.shallow, (ofText_compress_eq_ok_iff canonical durable).1 read⟩
  · rintro ⟨shallow, read⟩
    have durable : payload.Durable :=
      (Json.readText_keep_compress_iff canonical).1 (readsBack shallow)
    exact (ofText_compress_eq_ok_iff canonical durable).2 read

end Ledger

/-! ## Records -/

namespace StoredSubmission

/-- What is assumed of the texts of a submission.  Where one of the two bounds on the depth
does not hold, loading or saving fails (`Sync.run_load_of_deep`, `Sync.run_save_of_deep`). -/
structure Transfers (stored : StoredSubmission) : Prop where
  properties : Json.ReadsBack Json.keep id stored.properties
  shallow : stored.properties.depth ≤ Json.maximalDepth
  small : stored.properties.compress.utf8ByteSize ≤ Service.maximalBodySize
  /-- Of the record as a whole nothing is assumed but how deep and large it is. -/
  carried : stored.submission.extra.Every (Json.ReadsBack Json.keep id)
  shallowRecord : stored.submission.toJson.depth ≤ Json.maximalDepth
  smallRecord : stored.submission.graded.toJson.compress.utf8ByteSize ≤ Service.maximalBodySize

variable {stored : StoredSubmission}

theorem Transfers.durable_properties (transfers : stored.Transfers) (canonical : stored.Canonical) :
    stored.properties.Durable :=
  (Json.readText_keep_compress_iff canonical.2).1 (transfers.properties transfers.shallow)

/-- A record is durable when what it carries along is read back value by value. -/
theorem Transfers.durable_record (transfers : stored.Transfers) (canonical : stored.Canonical) :
    stored.submission.toJson.Durable := by
  have shallow := transfers.shallowRecord
  have inside : Json.depthMembers stored.submission.extra.members.entries + 1 ≤
      Json.maximalDepth := by
    simpa only [Submission.toJson, Json.depth, Json.depthMembers, Nat.zero_max] using shallow
  have each : ∀ member ∈ stored.submission.extra.members.entries, member.2.Durable := by
    intro member listed
    have found := Dict.get?_eq_some_iff.2 listed
    apply (Json.readText_keep_compress_iff (canonical.1 _ _ found)).1
    apply transfers.carried _ _ found
    exact Nat.le_trans (Json.depth_le_depthMembers listed) (Nat.le_of_succ_le inside)
  have first : some "id" ≠ some Json.embeddingKey := by decide
  refine ⟨?_, ?_, shallow⟩
  · simp only [Submission.toJson, Json.Steady, Json.SteadyMembers, Number.reread_natural, true_and]
    exact Json.steadyMembers_iff.2 fun member listed => (each member listed).steady
  · simp only [Submission.toJson, Json.Plain, Json.PlainMembers, true_and]
    exact ⟨first, Json.plainMembers_iff.2 fun member listed => (each member listed).plain⟩

/-- The record comes back graded and otherwise as it was. -/
theorem Transfers.returned (transfers : stored.Transfers) (canonical : stored.Canonical) :
    stored.submission.returned? = some stored.submission.graded := by
  rw [Submission.returned?_of_durable canonical.1 (transfers.durable_record canonical),
    if_neg (Nat.not_lt_of_le transfers.smallRecord)]

/-- A record that is nested too deeply for a text does not come back. -/
theorem returned?_of_deep (deep : Json.maximalDepth < stored.submission.toJson.depth) :
    stored.submission.returned? = none := by
  apply Option.eq_none_iff_forall_ne_some.2
  intro record returned
  rcases Submission.returned?_eq_some_iff.1 returned with ⟨fetched, read, _⟩
  exact Nat.not_le_of_lt deep (Submission.bounds_reader.depth_le read)

/-- A submission that has been graded can be sent as before. -/
theorem Transfers.graded (transfers : stored.Transfers) :
    Transfers { stored with submission := stored.submission.graded } :=
  { transfers with }

end StoredSubmission

/-! ## What the service answers -/

namespace Service

variable {service : Service} {key : SubmissionKey} {authorization : Option String}
  {stored : StoredSubmission}

/-- The request that fetches grading properties. -/
def loadRequest (authorization : Option String) (key : SubmissionKey) : Request :=
  ⟨.get, SubmissionKey.mount ++ key.propertiesPath, authorization, none, ""⟩

theorem respond_load (found : service.store.get? key = some stored)
    (admitted : service.access.admits authorization = true) :
    service.respond (loadRequest authorization key) = (.json stored.properties, service) := by
  unfold loadRequest
  rw [respond_get (Route.ofTarget?_properties key) rfl, if_pos admitted]
  simp only [read, PathKey.toKey_written, getProperties, found]

/-- A payload that is received and is a ledger replaces the properties. -/
theorem respond_properties_of_received (found : service.store.get? key = some stored)
    (admitted : service.access.admits authorization = true) {payload properties : Json}
    {ledger : Ledger} (taken : received Json.keep payload = some properties)
    (accepted : Ledger.ofJson properties = .ok ledger) :
    service.respond (propertiesRequest authorization key payload) =
      (.bare 204, { service with
        store := service.store.modify key fun stored => { stored with properties } }) := by
  unfold propertiesRequest
  rw [respond_put (Route.ofTarget?_properties key) rfl, if_pos admitted]
  simp only [write, PathKey.toKey_written]
  rcases @readBody_cases authorization _ Json.keep payload .put
    (SubmissionKey.mount ++ key.propertiesPath) with ⟨other, takenOther, read⟩ | ⟨untaken, _⟩
  · cases taken.symm.trans takenOther
    simp only [read, putProperties, accepted, Store.setProperties?_of_get? found]
  · cases taken.symm.trans untaken

end Service

/-! ## What the client is answered -/

namespace Network

variable {address : String} {network : Network}

/-- Without faults a call that can be sent brings the service's own response. -/
theorem exists_exchange {call : Call} {request : Request} (listens : network.address = some address)
    (faultless : network.faults = []) (sent : request? address call = some request) :
    ∃ after, exchange call network = (some (network.service.respond request).1, after) ∧
      after.Follows network ∧ after.service = (network.service.respond request).2 := by
  have failing : Failing network.faults := faultless ▸ nofun
  rcases exchange_cases call listens failing with
    ⟨reply, after, exchanged, follows, ⟨_, _, unsent⟩ | ⟨other, sentOther, rfl, served⟩⟩
  · cases sent.symm.trans (unsent faultless)
  · cases sent.symm.trans sentOther
    exact ⟨after, exchanged, follows, served⟩

/-- The service goes on listening where it did during a whole dialogue. -/
theorem follows_run {α : Type} (dialogue : Dialogue α) (listens : network.address = some address)
    (failing : Failing network.faults) : (dialogue.run exchange network).2.Follows network := by
  induction dialogue generalizing network with
  | done result => exact ⟨rfl, failing, id⟩
  | ask call next inductionHypothesis =>
      rcases exchange_cases call listens failing with ⟨reply, after, exchanged, follows, _⟩
      have later := inductionHypothesis reply (follows.address.trans listens) follows.failing
      simp only [Dialogue.run, exchanged]
      exact later.trans follows

end Network

/-- Whatever the client sends reaches the service, and the service lets it in. -/
structure Served (client : Client) (network : Network) : Prop where
  connected : Connected client network
  faultless : network.faults = []
  admitted : Admits network.service client

namespace Served

variable {client : Client} {network after : Network}

theorem follows (served : Served client network) (follows : after.Follows network)
    (same : after.service.access = network.service.access) : Served client after where
  connected := served.connected.follows follows
  faultless := follows.faultless served.faultless
  admitted := by
    rcases served.admitted with ⟨authorization, header, admits⟩
    exact ⟨authorization, header, same ▸ admits⟩

/-- A client goes on being served during a whole dialogue. -/
theorem run {α : Type} (served : Served client network) (dialogue : Dialogue α)
    (same : (dialogue.run Network.exchange network).2.service.access = network.service.access) :
    Served client (dialogue.run Network.exchange network).2 := by
  rcases served.connected.reaches with ⟨address, listens, _⟩
  exact served.follows (Network.follows_run dialogue listens served.connected.failing) same

end Served

namespace Sync

variable {sync : Sync} {network : Network} {key : SubmissionKey} {old : StoredSubmission}
  {ledger : Ledger}

/-- A session that may grade loads what the text of the properties is read as. -/
theorem run_load_of_served (served : Served sync.client network)
    (permitted : sync.session.canGrade key.lecture = true)
    (found : network.service.store.get? key = some old) :
    ((sync.load key).run Network.exchange network).1 =
        (Ledger.ofText old.properties.compress).mapError .parse ∧
      ((sync.load key).run Network.exchange network).2.service = network.service := by
  rcases served.connected.reaches with ⟨address, listens, knows⟩
  rcases served.admitted with ⟨authorization, header, admits⟩
  have sent : Network.request? address (sync.loadCall key) =
      some (Service.loadRequest authorization key) := by
    rw [loadCall, Network.request?_call knows (Network.plain_propertiesPath key), header]
    rfl
  rcases Network.exists_exchange listens served.faultless sent with ⟨after, exchanged, _, answered⟩
  rw [Service.respond_load found admits] at exchanged answered
  rw [load_eq, authorize, if_pos permitted]
  simp only [Dialogue.run, exchanged]
  refine ⟨?_, answered⟩
  change ((Ledger.ofText (Client.plainText old.properties.compress)).mapError SyncError.parse) = _
  rw [Client.plainText_compress]

/-- Where the text of the properties is read back at all, loading succeeds just when they are a
ledger that is not nested too deeply. -/
theorem run_load_eq_ok_iff (served : Served sync.client network)
    (permitted : sync.session.canGrade key.lecture = true)
    (found : network.service.store.get? key = some old) (canonical : old.Canonical)
    (readsBack : Json.ReadsBack Json.keep id old.properties) :
    ((sync.load key).run Network.exchange network).1 = .ok ledger ↔
      old.properties.depth ≤ Json.maximalDepth ∧ Ledger.ofJson old.properties = .ok ledger := by
  rw [(run_load_of_served served permitted found).1, Outcome.mapError_eq_ok]
  exact Ledger.ofText_compress_eq_ok_iff_of_readsBack canonical.2 readsBack

/-- The ledger of a submission is loaded from its text. -/
theorem run_load_of_transfers (served : Served sync.client network)
    (permitted : sync.session.canGrade key.lecture = true)
    (found : network.service.store.get? key = some old) (canonical : old.Canonical)
    (transfers : old.Transfers) (read : Ledger.ofJson old.properties = .ok ledger) :
    ((sync.load key).run Network.exchange network).1 = .ok ledger :=
  (run_load_eq_ok_iff served permitted found canonical transfers.properties).2
    ⟨transfers.shallow, read⟩

/-- Loading fails in one way only, with a text that is no ledger. -/
theorem exists_parse_of_load (served : Served sync.client network)
    (permitted : sync.session.canGrade key.lecture = true)
    (found : network.service.store.get? key = some old)
    (fails : ∀ ledger, ((sync.load key).run Network.exchange network).1 ≠ .ok ledger) :
    ∃ error, ((sync.load key).run Network.exchange network).1 = .error (.parse error) := by
  rw [(run_load_of_served served permitted found).1] at fails ⊢
  cases read : Ledger.ofText old.properties.compress with
  | error error => exact ⟨error, rfl⟩
  | ok ledger =>
      rw [read] at fails
      exact absurd rfl (fails ledger)

/-- Properties that are nested too deeply for a text cannot be loaded. -/
theorem run_load_of_deep (served : Served sync.client network)
    (permitted : sync.session.canGrade key.lecture = true)
    (found : network.service.store.get? key = some old)
    (deep : Json.maximalDepth < old.properties.depth) :
    ∃ error, ((sync.load key).run Network.exchange network).1 = .error (.parse error) := by
  apply exists_parse_of_load served permitted found
  intro ledger loads
  rw [(run_load_of_served served permitted found).1, Outcome.mapError_eq_ok] at loads
  exact Nat.not_le_of_lt deep (Ledger.bounds_reader.depth_le loads)

/-- What is received of a payload and is a ledger replaces the properties, and the rest of a
save is marking the submission. -/
theorem run_save_of_received (served : Served sync.client network)
    (permitted : sync.session.canGrade key.lecture = true)
    (found : network.service.store.get? key = some old) {properties : Json}
    (taken : Service.received Json.keep ledger.toJson = some properties) {other : Ledger}
    (accepted : Ledger.ofJson properties = .ok other) :
    ∃ middle, Served sync.client middle ∧
      middle.service = { network.service with
        store := network.service.store.modify key fun stored => { stored with properties } } ∧
      (sync.save key ledger).run Network.exchange network =
        (((sync.markGraded key).run Network.exchange middle).1.mapError .statusUpdate,
          ((sync.markGraded key).run Network.exchange middle).2) := by
  rcases served.connected.reaches with ⟨address, listens, knows⟩
  rcases served.admitted with ⟨authorization, header, admits⟩
  have sent : Network.request? address
      (sync.client.call .put key.propertiesPath (some ledger.toJson)) =
        some (Service.propertiesRequest authorization key ledger.toJson) := by
    rw [Network.request?_properties knows, header, Option.map_some]
  rcases Network.exists_exchange listens served.faultless sent with
    ⟨middle, exchanged, follows, answered⟩
  rw [Service.respond_properties_of_received found admits taken accepted] at exchanged answered
  have servedAfter : Served sync.client middle := by
    apply served.follows follows
    rw [answered]
  have succeeded : Client.successBody (some (Response.bare 204)) = .ok "" := rfl
  refine ⟨middle, servedAfter, answered, ?_⟩
  rw [save_eq, authorize, if_pos permitted]
  simp only [Dialogue.run, exchanged, succeeded, Dialogue.run_bind, Dialogue.run_pure]

/-- A session that may grade puts back the properties that are there, and marks the
submission as graded. -/
theorem run_save_of_transfers (served : Served sync.client network)
    (permitted : sync.session.canGrade key.lecture = true)
    (found : network.service.store.get? key = some old) (own : old.key = key)
    (canonical : old.Canonical) (transfers : old.Transfers)
    (read : Ledger.ofJson old.properties = .ok ledger) :
    ((sync.save key ledger).run Network.exchange network).1 = .ok () ∧
      ((sync.save key ledger).run Network.exchange network).2.service =
        { network.service with store := network.service.store.modify key fun stored =>
          { stored with properties := old.properties, submission := old.submission.graded } } := by
  have durable := transfers.durable_properties canonical
  have written : ledger.toJson = old.properties := Ledger.toJson_of_ofJson canonical.2 durable read
  have taken : Service.received Json.keep ledger.toJson = some old.properties := by
    rw [written]
    exact Service.received_eq_some_iff.2
      ⟨transfers.small, (Json.readText_keep_compress_iff canonical.2).2 durable⟩
  rcases run_save_of_received served permitted found taken read with
    ⟨middle, servedAfter, answered, saved⟩
  have foundAfter : middle.service.store.get? key = some old := by
    rw [answered, Store.get?_modify, if_pos rfl, found, Option.map_some]
  rcases run_markGraded servedAfter.connected servedAfter.admitted foundAfter with
    ⟨result, after, ran, ⟨_, _, lost⟩ | ⟨rfl, record, returned, replaced⟩⟩
  · have named : old.submission.id = key.submission := congrArg SubmissionKey.submission own
    cases (lost servedAfter.faultless named).symm.trans (transfers.returned canonical)
  · cases returned.symm.trans (transfers.returned canonical)
    rw [answered, Store.modify_modify] at replaced
    rw [saved, ran]
    exact ⟨rfl, replaced⟩

/-- Over a record that is nested too deeply for a text a save stores the properties, as far as
they are received at all, and reports that the record could not be marked. -/
theorem run_save_of_deep (served : Served sync.client network)
    (permitted : sync.session.canGrade key.lecture = true)
    (found : network.service.store.get? key = some old) {properties : Json}
    (taken : Service.received Json.keep ledger.toJson = some properties) {other : Ledger}
    (accepted : Ledger.ofJson properties = .ok other)
    (deep : Json.maximalDepth < old.submission.toJson.depth) :
    (∃ error, ((sync.save key ledger).run Network.exchange network).1 =
        .error (.statusUpdate error)) ∧
      ((sync.save key ledger).run Network.exchange network).2.service =
        { network.service with
          store := network.service.store.modify key fun stored => { stored with properties } } := by
  rcases run_save_of_received served permitted found taken accepted with
    ⟨middle, servedAfter, answered, saved⟩
  have foundAfter : middle.service.store.get? key = some { old with properties } := by
    rw [answered, Store.get?_modify, if_pos rfl, found, Option.map_some]
  rcases run_markGraded servedAfter.connected servedAfter.admitted foundAfter with
    ⟨result, after, ran, ⟨⟨error, rfl⟩, unchanged, _⟩ | ⟨_, record, returned, _⟩⟩
  · rw [saved, ran]
    exact ⟨⟨error, rfl⟩, unchanged.trans answered⟩
  · cases (StoredSubmission.returned?_of_deep deep).symm.trans returned

/-- Where the properties are a ledger, loading gives it and changes nothing, and saving
it at once puts back the properties and the record, graded.  No other submission
changes, and the same ledger is loaded again.  Properties that are no ledger cannot be
loaded.

The bounds on the depth cannot be left out: beyond them a load reports a text that cannot be
read (`run_load_of_deep`), and a save a record that could not be marked
(`run_save_of_deep`). -/
theorem load_save_load (connected : Connected sync.client network)
    (faultless : network.faults = []) (permitted : sync.session.canGrade key.lecture = true)
    (trusts : Trusts network.service sync.client)
    (found : network.service.store.get? key = some old) (own : old.key = key)
    (canonical : old.Canonical) :
    (∀ ledger, Ledger.ofJson old.properties = .ok ledger → old.Transfers →
      let loaded := (sync.load key).run Network.exchange network
      let saved := (sync.save key ledger).run Network.exchange loaded.2
      let reloaded := (sync.load key).run Network.exchange saved.2
      loaded.1 = .ok ledger ∧ loaded.2.service = network.service ∧
      saved.1 = .ok () ∧
      saved.2.service.store.get? key = some { old with submission := old.submission.graded } ∧
      (∀ other, other ≠ key →
        saved.2.service.store.get? other = network.service.store.get? other) ∧
      reloaded.1 = .ok ledger ∧ reloaded.2.service = saved.2.service) ∧
    (∀ error, Ledger.ofJson old.properties = .error error →
      Json.ReadsBack Json.keep id old.properties →
      let loaded := (sync.load key).run Network.exchange network
      (∃ error, loaded.1 = .error (.parse error)) ∧ loaded.2.service = network.service) := by
  have served : Served sync.client network := ⟨connected, faultless, trusts.admits⟩
  have unchanged := (run_load_of_served served permitted found).2
  constructor
  · intro ledger read transfers loaded saved reloaded
    have servedSave : Served sync.client loaded.2 := served.run _ (congrArg Service.access unchanged)
    have foundSave : loaded.2.service.store.get? key = some old := by
      rw [unchanged, found]
    rcases run_save_of_transfers servedSave permitted foundSave own canonical transfers read with
      ⟨succeeded, stores⟩
    have servedReload : Served sync.client saved.2 := by
      apply servedSave.run
      rw [stores]
    have foundReload : saved.2.service.store.get? key =
        some { old with submission := old.submission.graded } := by
      rw [stores, Store.get?_modify, if_pos rfl, foundSave, Option.map_some]
    have transfersReload : StoredSubmission.Transfers
        { old with submission := old.submission.graded } := transfers.graded
    refine ⟨run_load_of_transfers served permitted found canonical transfers read, unchanged,
      succeeded, foundReload, fun other differs => ?_,
      run_load_of_transfers servedReload permitted foundReload canonical transfersReload read,
      (run_load_of_served servedReload permitted foundReload).2⟩
    rw [stores, Store.get?_modify_of_ne _ differs, unchanged]
  · intro error refused readsBack loaded
    refine ⟨exists_parse_of_load served permitted found fun ledger loads => ?_, unchanged⟩
    have read := (run_load_eq_ok_iff served permitted found canonical readsBack).1 loads
    cases refused.symm.trans read.2

end Sync

/-! ## A submission with members that grading does not know -/

namespace Unedited

/-- A whole number that is a double. -/
def score : Number := .double 7 (by decide +kernel)

/-- Grading properties with a missing member, a member that is null, a double, a
natural number and a member that grading does not know. -/
def payload : Json :=
  .object [("h", .object [
    ("comments_dict", .object [("c", .object [("manual_comment", .null)])]),
    ("grades_dict", .object [("c", .object [("auto_score", .null), ("manual_score", .number score),
      ("max_score", .number (.natural 10))])]),
    ("kernel", .string "python")])]

/-- A record with a member beside the interpreted ones. -/
def record : Submission := ⟨3, .beingEdited, Extra.empty.insert "name" (.string "ada") (by decide)⟩

/-- The submission. -/
def stored : StoredSubmission := ⟨1, 2, record, payload⟩

/-- A service that holds the submission and asks for a token. -/
def network : Network :=
  ⟨⟨⟨some "secret"⟩, Store.ofList [stored]⟩, some "a", [], []⟩

/-- A tutor of the lecture who holds the token. -/
def sync : Sync :=
  ⟨⟨"a/services/grader", some "secret"⟩, (Session.ofUser "ada").withRole 1 .tutor⟩

theorem canonical_payload : payload.Canonical := by
  simp only [payload, Json.Canonical, Json.CanonicalMembers, List.map_cons, List.map_nil, and_true]
  decide

theorem durable_payload : payload.Durable where
  steady := by
    have reread : score.reread = some score := by decide +kernel
    simp only [payload, Json.Steady, Json.SteadyMembers, Number.reread_natural, reread, and_self]
  plain := by
    simp only [payload, Json.Plain, Json.PlainMembers, List.head?_cons, Option.map_some, and_true]
    decide
  shallow := by decide +kernel

theorem every_extra {property : Json → Prop} (holds : property (.string "ada")) :
    record.extra.Every property := by
  have free : "name" ∉ submissionFields := by decide
  exact @Extra.every_insert _ _ _ _ _ free (Extra.every_empty property) holds

theorem canonical : stored.Canonical :=
  ⟨every_extra (by simp only [Json.Canonical]), canonical_payload⟩

theorem transfers : stored.Transfers where
  properties _ := (Json.readText_keep_compress_iff canonical_payload).2 durable_payload
  shallow := durable_payload.shallow
  small := by decide +kernel
  carried := by
    have named : (Json.string "ada").Canonical := by simp only [Json.Canonical]
    have durable : (Json.string "ada").Durable := by
      refine ⟨?_, ?_, by decide⟩
      · simp only [Json.Steady]
      · simp only [Json.Plain]
    exact every_extra fun _ => (Json.readText_keep_compress_iff named).2 durable
  shallowRecord := by decide +kernel
  smallRecord := by decide +kernel

end Unedited

namespace Sync

/-- A record that was being edited is graded, and nothing else of the submission has
changed. -/
theorem load_save_load_of_unedited : ∃ ledger : Ledger,
    let loaded := (Unedited.sync.load ⟨1, 2, 3⟩).run Network.exchange Unedited.network
    let saved := (Unedited.sync.save ⟨1, 2, 3⟩ ledger).run Network.exchange loaded.2
    loaded.1 = .ok ledger ∧ saved.1 = .ok () ∧
      saved.2.service.store.get? ⟨1, 2, 3⟩ =
        some ⟨1, 2, ⟨3, .manuallyGraded, Unedited.record.extra⟩, Unedited.payload⟩ := by
  have accepted : (Ledger.ofJson Unedited.payload).isOk = true := by decide +kernel
  rcases Outcome.exists_of_isOk accepted with ⟨ledger, read⟩
  have connected : Connected Unedited.sync.client Unedited.network := ⟨⟨"a", rfl, rfl⟩, nofun⟩
  have visible : "secret".toList.all (fun c => 0x21 ≤ c.toNat ∧ c.toNat ≤ 0x7E) = true := by decide
  have trusts : Trusts Unedited.network.service Unedited.sync.client :=
    .shared rfl rfl (by decide) fun c listed => of_decide_eq_true (List.all_eq_true.1 visible c listed)
  have found : Unedited.network.service.store.get? ⟨1, 2, 3⟩ = some Unedited.stored := rfl
  rcases (load_save_load connected rfl rfl trusts found rfl Unedited.canonical).1 ledger read
    Unedited.transfers with ⟨loads, _, saves, stores, _⟩
  exact ⟨ledger, loads, saves, stores⟩

end Sync

end Gradebook
