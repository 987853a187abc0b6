import Gradebook.Proofs.Client.Dialogue
import Gradebook.Proofs.Client.Exchange
import Gradebook.Proofs.Ledger.Canonical
import Gradebook.Proofs.Submission

namespace Gradebook

/-!
# What saving does to the store

Saving asks three things, and any of them may fail.  The result tells how far it
came: nothing has reached the store, or the properties have, or the record has as
well.  Whatever fails and whoever fails it, nothing else in the store changes.

What reaches the store is what the service reads from a text.  The properties are
the ledger's payload just when the payload is durable, and the record is the old
one with a new status when the old one is durable.  `Submission.returned?` follows
the record there and back.
-/

namespace Submission

/-- The record of a submission that has been graded. -/
def graded (submission : Submission) : Submission :=
  { submission with manualStatus := .manuallyGraded }

/-- The record that the service holds after it was fetched, marked and sent
back, if both texts can be read. -/
def returned? (submission : Submission) : Option Submission := do
  let fetched ← (Json.readText reader submission.toJson.compress).toOption
  Service.received reader fetched.graded.toJson

variable {submission record : Submission}

theorem durable_graded (durable : submission.toJson.Durable) :
    submission.graded.toJson.Durable := by
  obtain ⟨steady, plain, shallow⟩ := durable
  simp only [toJson, Json.Steady, Json.SteadyMembers, Json.Plain, Json.PlainMembers, Json.depth,
    Json.depthMembers] at steady plain shallow
  constructor
  · simp only [graded, toJson, Json.Steady, Json.SteadyMembers]
    exact steady
  · simp only [graded, toJson, Json.Plain, Json.PlainMembers]
    exact plain
  · simp only [graded, toJson, Json.depth, Json.depthMembers]
    exact shallow

theorem returned?_eq_some_iff : submission.returned? = some record ↔
    ∃ fetched, Json.readText reader submission.toJson.compress = .ok fetched ∧
      Service.received reader fetched.graded.toJson = some record := by
  unfold returned?
  cases Json.readText reader submission.toJson.compress with
  | error error =>
      constructor
      · intro impossible
        cases impossible
      · rintro ⟨_, impossible, _⟩
        cases impossible
  | ok fetched =>
      constructor
      · intro taken
        exact ⟨fetched, rfl, taken⟩
      · rintro ⟨_, ⟨rfl⟩, taken⟩
        exact taken

/-- The record that comes back names the submission that it was fetched for. -/
theorem id_of_returned? (returned : submission.returned? = some record) :
    record.id = submission.id := by
  obtain ⟨fetched, read, taken⟩ := returned?_eq_some_iff.1 returned
  have sentBack := id_of_readText (Service.received_eq_some_iff.1 taken).2
  have fetchedId : fetched.id = submission.id := id_of_readText read
  exact sentBack.trans fetchedId

/-- A durable record comes back as it was, but for its status. -/
theorem returned?_of_durable (canonical : submission.extra.Every Json.Canonical)
    (durable : submission.toJson.Durable) :
    submission.returned? =
      if Service.maximalBodySize < submission.graded.toJson.compress.utf8ByteSize then none
      else some submission.graded := by
  have fetched := readText_toJson canonical durable
  have sentBack : Json.readText reader submission.graded.toJson.compress = .ok submission.graded :=
    readText_toJson canonical (durable_graded durable)
  simp only [returned?, fetched, Service.received, Except.toOption, Option.bind_eq_bind,
    Option.bind_some, sentBack]

end Submission

/-! ## The dialogue -/

namespace Sync

/-- Marking fetches the record and sends it back, unless it cannot be read. -/
theorem markGraded_eq (sync : Sync) (key : SubmissionKey) :
    sync.markGraded key =
      .ask (sync.client.call .get key.submissionPath none) fun reply =>
        match (Client.successBody reply).bind Client.submissionOfText with
        | .error error => .done (.error error)
        | .ok fetched =>
          .ask (sync.client.call .put key.submissionPath (some fetched.graded.toJson))
            fun reply => .done ((Client.successBody reply).map fun _ => ()) := by
  refine congrArg (Dialogue.ask _) (funext fun reply => ?_)
  change Dialogue.bind (.done ((Client.successBody reply).bind Client.submissionOfText)) _ = _
  cases (Client.successBody reply).bind Client.submissionOfText with
  | error error => rfl
  | ok fetched => rfl

/-- A save replaces the properties first and marks the submission after that. -/
theorem save_eq (sync : Sync) (key : SubmissionKey) (ledger : Ledger) :
    sync.save key ledger =
      match sync.authorize key with
      | .error error => .done (.error error)
      | .ok () =>
        .ask (sync.client.call .put key.propertiesPath (some ledger.toJson)) fun reply =>
          match Client.successBody reply with
          | .error error => .done (.error (.fetch error))
          | .ok _ =>
            sync.markGraded key >>= fun outcome => pure (outcome.mapError .statusUpdate) := by
  unfold save
  cases sync.authorize key with
  | error error => rfl
  | ok _ =>
      refine congrArg (Dialogue.ask _) (funext fun reply => ?_)
      change Dialogue.bind (.done ((Client.successBody reply).map fun _ => ())) _ = _
      cases Client.successBody reply with
      | error error => rfl
      | ok body => rfl

/-- A save asks three things at most. -/
theorem within_save (sync : Sync) (key : SubmissionKey) (ledger : Ledger) :
    (sync.save key ledger).Within 3 := by
  have marking : (sync.markGraded key).Within 2 := by
    rw [markGraded_eq]
    apply Dialogue.Within.ask
    intro reply
    split
    · exact .done 1 _
    · exact .ask fun reply => .done 0 _
  rw [save_eq]
  split
  · exact .done 3 _
  · apply Dialogue.Within.ask
    intro reply
    split
    · exact .done 2 _
    · exact marking.map _

/-! ## The outcome -/

section Outcome

variable {sync : Sync} {network : Network} {key : SubmissionKey} {ledger : Ledger}

/-- Marking fails without effect, or the record has gone there and back. -/
theorem run_markGraded (connected : Connected sync.client network)
    (admitted : Admits network.service sync.client) {stored : StoredSubmission}
    (found : network.service.store.get? key = some stored) :
    ∃ result after, (sync.markGraded key).run Network.exchange network = (result, after) ∧
      (((∃ error, result = .error error) ∧ after.service = network.service ∧
          (network.faults = [] → stored.submission.id = key.submission →
            stored.submission.returned? = none)) ∨
        result = .ok () ∧ ∃ record, stored.submission.returned? = some record ∧
          after.service = { network.service with
            store := network.service.store.modify key fun stored =>
              { stored with submission := record } }) := by
  rw [markGraded_eq]
  simp only [Dialogue.run]
  obtain ⟨reply, middle, exchanged, follows, same, ⟨faulty, error, failed⟩ | succeeded⟩ :=
    connected.exchange_fetch admitted found
  · rw [exchanged]
    simp only [failed, Except.bind, Dialogue.run]
    exact ⟨_, _, rfl, .inl ⟨⟨error, rfl⟩, same, fun faultless => absurd faultless faulty⟩⟩
  rw [exchanged]
  simp only [succeeded, Except.bind, Client.submissionOfText]
  cases read : Json.readText Submission.reader stored.submission.toJson.compress with
  | error error =>
      refine ⟨_, _, rfl, .inl ⟨⟨_, rfl⟩, same, fun _ _ => ?_⟩⟩
      simp only [Submission.returned?, read, Except.toOption]
      rfl
  | ok fetched =>
      have returned : ∀ record, stored.submission.returned? = some record ↔
          Service.received Submission.reader fetched.graded.toJson = some record := by
        intro record
        simp only [Submission.returned?_eq_some_iff, read, Except.ok.injEq, exists_eq_left']
      rw [← same] at admitted found
      obtain ⟨reply, after, exchanged, _, ⟨⟨error, failed⟩, unchanged, untaken⟩ |
        ⟨⟨body, succeeded⟩, record, taken, served⟩⟩ :=
          (connected.follows follows).exchange_record admitted found fetched.graded
      · simp only [Except.mapError, Dialogue.run, exchanged, failed, Except.map]
        refine ⟨_, _, rfl, .inl ⟨⟨error, rfl⟩, unchanged.trans same, fun faultless named => ?_⟩⟩
        cases back : stored.submission.returned? with
        | none => rfl
        | some record =>
            have misnamed := untaken (follows.faultless faultless) record ((returned record).1 back)
            exact absurd ((Submission.id_of_returned? back).trans named) misnamed
      · simp only [Except.mapError, Dialogue.run, exchanged, succeeded, Except.map]
        rw [same] at served
        exact ⟨_, _, rfl, .inr ⟨rfl, record, (returned record).2 taken, served⟩⟩

/-- What a save has done to the store when it ends with some result: `properties`
and `record` are what the service made of the texts that it was sent. -/
def SaveOutcome (ledger : Ledger) (key : SubmissionKey) (faultless : Prop) (before after : Store) :
    Except SyncError Unit → Prop
  | .ok () => ∃ stored properties record, before.get? key = some stored ∧
      Service.received Json.keep ledger.toJson = some properties ∧
      stored.submission.returned? = some record ∧
      after = before.modify key fun stored => { stored with properties, submission := record }
  | .error (.statusUpdate _) => ∃ stored properties, before.get? key = some stored ∧
      Service.received Json.keep ledger.toJson = some properties ∧
      (faultless → stored.submission.returned? = none) ∧
      after = before.modify key fun stored => { stored with properties }
  | .error (.permissionDenied _ _) | .error (.fetch _) => after = before
  | .error (.parse _) => False

/-- Whatever the store holds, a save has replaced both parts of its submission, the
properties or nothing.  That the record was lost on the way without a fault is known only
where it stands under its own id. -/
theorem saveOutcome_run (connected : Connected sync.client network) {faultless : Prop}
    (keyed : faultless → network.faults = [] ∧ ∀ stored,
      network.service.store.get? key = some stored → stored.submission.id = key.submission) :
    SaveOutcome ledger key faultless network.service.store
      ((sync.save key ledger).run Network.exchange network).2.service.store
      ((sync.save key ledger).run Network.exchange network).1 := by
  rw [save_eq, authorize]
  split_ifs with permitted
  · simp only [Dialogue.run]
    obtain ⟨reply, middle, exchanged, follows, ⟨⟨error, failed⟩, same⟩ | ⟨⟨body, succeeded⟩,
      admitted, stored, properties, found, taken, served⟩⟩ :=
        connected.exchange_properties key ledger.toJson
    · simp only [exchanged, failed, Dialogue.run, SaveOutcome, same]
    · have admittedAfter : Admits middle.service sync.client := by
        rw [served]
        exact admitted
      have foundAfter : middle.service.store.get? key = some { stored with properties } := by
        rw [served, Store.get?_modify, if_pos rfl, found, Option.map_some]
      obtain ⟨result, after, ran, ⟨⟨error, rfl⟩, same, lost⟩ | ⟨rfl, record, returned, replaced⟩⟩ :=
        run_markGraded (connected.follows follows) admittedAfter foundAfter
      · simp only [exchanged, succeeded, Dialogue.run_bind, ran, Dialogue.run_pure,
          Except.mapError, SaveOutcome, same, served]
        refine ⟨stored, properties, found, taken, fun undisturbed => ?_, rfl⟩
        rcases keyed undisturbed with ⟨faultless, named⟩
        exact lost (follows.faultless faultless) (named stored found)
      · simp only [exchanged, succeeded, Dialogue.run_bind, ran, Dialogue.run_pure,
          Except.mapError, SaveOutcome, replaced, served, Store.modify_modify]
        exact ⟨stored, properties, record, found, taken, returned, rfl⟩
  · simp only [Dialogue.run, SaveOutcome]

theorem run_save (connected : Connected sync.client network)
    (sound : network.service.store.Sound) :
    SaveOutcome ledger key (network.faults = []) network.service.store
      ((sync.save key ledger).run Network.exchange network).2.service.store
      ((sync.save key ledger).run Network.exchange network).1 :=
  saveOutcome_run connected fun faultless => ⟨faultless, fun stored found =>
    congrArg SubmissionKey.submission (sound.keyed key stored found)⟩

/-- What a save is meant to do: store the payload and change nothing of the record
but its status. -/
def SaveIntent (ledger : Ledger) (key : SubmissionKey) (faultless : Prop) (before after : Store) :
    Except SyncError Unit → Prop
  | .ok () => ∃ old, before.get? key = some old ∧
      after = before.modify key fun stored =>
        { stored with properties := ledger.toJson, submission := old.submission.graded }
  | .error (.statusUpdate error) => (SyncError.statusUpdate error).propertiesSaved = true ∧
      ¬ faultless ∧ ∃ old, before.get? key = some old ∧
      after = before.modify key fun stored => { stored with properties := ledger.toJson }
  | .error (.permissionDenied username lecture) =>
      (SyncError.permissionDenied username lecture).propertiesSaved = false ∧ after = before
  | .error (.fetch error) => (SyncError.fetch error).propertiesSaved = false ∧ after = before
  | .error (.parse _) => False

/-- What a save needs in order to do what it is meant to do: a durable payload, and
a record that comes back. -/
def SaveNeeds (ledger : Ledger) (key : SubmissionKey) (faultless : Prop) (before : Store) :
    Except SyncError Unit → Prop
  | .ok () => ledger.toJson.Durable ∧ ∀ stored, before.get? key = some stored →
      stored.submission.returned? = some stored.submission.graded
  | .error (.statusUpdate _) => ledger.toJson.Durable ∧ ¬ faultless
  | .error _ => True

/-- The service holds the payload of a ledger just when it is durable. -/
theorem eq_toJson_iff (reachable : ledger.Reachable) {properties : Json}
    (taken : Service.received Json.keep ledger.toJson = some properties) :
    properties = ledger.toJson ↔ ledger.toJson.Durable := by
  have read := (Service.received_eq_some_iff.1 taken).2
  rw [← Json.readText_keep_compress_iff reachable.canonical_toJson, read, Except.ok.injEq]

theorem SaveOutcome.get?_of_ne {faultless : Prop} {before after : Store}
    {result : Except SyncError Unit} (outcome : SaveOutcome ledger key faultless before after result)
    {other : SubmissionKey} (differs : other ≠ key) : after.get? other = before.get? other := by
  match result, outcome with
  | .ok (), outcome =>
      obtain ⟨_, _, _, _, _, _, rfl⟩ := outcome
      exact Store.get?_modify_of_ne _ differs
  | .error (.statusUpdate _), outcome =>
      obtain ⟨_, _, _, _, _, rfl⟩ := outcome
      exact Store.get?_modify_of_ne _ differs
  | .error (.permissionDenied _ _), outcome | .error (.fetch _), outcome =>
      exact congrArg (·.get? other) outcome
  | .error (.parse _), outcome => exact outcome.elim

/-- After a save that stored the properties the service holds what it received. -/
theorem SaveOutcome.exists_stored {faultless : Prop} {before after : Store}
    {result : Except SyncError Unit} (outcome : SaveOutcome ledger key faultless before after result)
    (saved : result = .ok () ∨ ∃ error, result = .error (.statusUpdate error)) :
    ∃ stored, after.get? key = some stored ∧
      Service.received Json.keep ledger.toJson = some stored.properties := by
  rcases saved with rfl | ⟨error, rfl⟩
  · obtain ⟨stored, properties, record, found, taken, _, rfl⟩ := outcome
    refine ⟨{ stored with properties, submission := record }, ?_, taken⟩
    rw [Store.get?_modify, if_pos rfl, found, Option.map_some]
  · obtain ⟨stored, properties, found, taken, _, rfl⟩ := outcome
    refine ⟨{ stored with properties }, ?_, taken⟩
    rw [Store.get?_modify, if_pos rfl, found, Option.map_some]

theorem SaveOutcome.intent_iff {faultless : Prop} {before after : Store}
    {result : Except SyncError Unit} (outcome : SaveOutcome ledger key faultless before after result)
    (reachable : ledger.Reachable) :
    SaveIntent ledger key faultless before after result ↔
      SaveNeeds ledger key faultless before result := by
  match result, outcome with
  | .ok (), outcome =>
      obtain ⟨stored, properties, record, found, taken, returned, rfl⟩ := outcome
      have durable := eq_toJson_iff reachable taken
      simp only [SaveIntent, SaveNeeds, found, Option.some.injEq, exists_eq_left', forall_eq',
        returned]
      rw [← durable]
      constructor
      · intro same
        have entries := congrArg (·.get? key) same
        simp only [Store.get?_modify, if_true, found, Option.map_some, Option.some.injEq,
          StoredSubmission.mk.injEq, true_and] at entries
        exact ⟨entries.2, entries.1⟩
      · rintro ⟨rfl, rfl⟩
        rfl
  | .error (.statusUpdate _), outcome =>
      obtain ⟨stored, properties, found, taken, lost, rfl⟩ := outcome
      have durable := eq_toJson_iff reachable taken
      simp only [SaveIntent, SaveNeeds, found, Option.some.injEq, exists_eq_left']
      rw [← durable]
      constructor
      · rintro ⟨_, faulty, same⟩
        have entries := congrArg (·.get? key) same
        simp only [Store.get?_modify, if_true, found, Option.map_some, Option.some.injEq,
          StoredSubmission.mk.injEq, true_and] at entries
        exact ⟨entries, faulty⟩
      · rintro ⟨rfl, faulty⟩
        exact ⟨rfl, faulty, rfl⟩
  | .error (.permissionDenied _ _), outcome => exact ⟨fun _ => trivial, fun _ => ⟨rfl, outcome⟩⟩
  | .error (.fetch _), outcome => exact ⟨fun _ => trivial, fun _ => ⟨rfl, outcome⟩⟩
  | .error (.parse _), outcome => exact outcome.elim

/-- Every save ends in one of three ways, which its result tells apart: nothing is
stored, or the properties are, or the record is as well, each as the service
received it.  No other submission changes.  A save does what it is meant to do
just when what it needs is given, and a durable record comes back unless it is
too large. -/
theorem save_outcome (connected : Connected sync.client network)
    (sound : network.service.store.Sound) (reachable : ledger.Reachable) :
    let before := network.service.store
    let result := ((sync.save key ledger).run Network.exchange network).1
    let after := ((sync.save key ledger).run Network.exchange network).2.service.store
    SaveOutcome ledger key (network.faults = []) before after result ∧
      (∀ other, other ≠ key → after.get? other = before.get? other) ∧
      (SaveIntent ledger key (network.faults = []) before after result ↔
        SaveNeeds ledger key (network.faults = []) before result) ∧
      ∀ stored, before.get? key = some stored → stored.submission.toJson.Durable →
        stored.submission.graded.toJson.compress.utf8ByteSize ≤ Service.maximalBodySize →
          stored.submission.returned? = some stored.submission.graded := by
  intro before result after
  have outcome : SaveOutcome ledger key (network.faults = []) before after result :=
    run_save connected sound
  refine ⟨outcome, fun other differs => outcome.get?_of_ne differs, outcome.intent_iff reachable,
    ?_⟩
  · intro stored found durable small
    rw [Submission.returned?_of_durable (sound.canonical key stored found) durable,
      if_neg (Nat.not_lt_of_le small)]

end Outcome

end Sync

/-! ## A double that does not come back -/

namespace Drift

/-- A tutor of the lecture. -/
def sync : Sync := ⟨⟨"a/services/grader", none⟩, ⟨"t", [(1, .tutor)]⟩⟩

/-- The submission. -/
def key : SubmissionKey := ⟨1, 2, 3⟩

/-- A service that holds nothing but the submission. -/
def network : Network :=
  ⟨⟨⟨none⟩, Store.ofList [⟨1, 2, ⟨3, .notGraded, .empty⟩, .object []⟩]⟩, some "a", [], []⟩

/-- Grading properties with a score.  Without the last zero the same number is read
as a neighbour of this double. -/
def payload : String :=
  "\x7b\"h\":\x7b\"comments_dict\":\x7b\x7d,\"grades_dict\":\x7b\"c\":\x7b\"manual_score\":" ++
    "51.2481783755054040\x7d\x7d\x7d\x7d"

/-- The ledger of the grading properties. -/
def ledger : Ledger := (Ledger.ofText payload).toOption.getD .empty

theorem connected : Connected sync.client network :=
  ⟨⟨"a", rfl, rfl⟩, nofun⟩

theorem sound : network.service.store.Sound :=
  Store.sound_ofList fun stored listed => by
    rw [List.mem_singleton.1 listed]
    exact Extra.every_empty Json.Canonical

theorem authorize_key : sync.authorize key = .ok () :=
  rfl

theorem ofText_payload : Ledger.ofText payload = .ok ledger := by
  have accepted : (Ledger.ofText payload).isOk = true := by decide +kernel
  exact Outcome.eq_ok_getD accepted .empty

theorem saved : ((sync.save key ledger).run Network.exchange network).1 = .ok () := by
  have accepted : ((sync.save key ledger).run Network.exchange network).1.isOk = true := by
    decide +kernel
  obtain ⟨⟨⟩, saved⟩ := Outcome.exists_of_isOk accepted
  exact saved

theorem drifts : Json.readText Json.keep ledger.toJson.compress ≠ .ok ledger.toJson := by
  have differ : (Json.readText Json.keep ledger.toJson.compress).toOption.map Json.compress ≠
      some ledger.toJson.compress := by
    decide +kernel
  intro read
  rw [read] at differ
  exact differ rfl

-- What follows from these facts is proved without looking at the data again.
attribute [irreducible] sync key network payload ledger

end Drift

namespace Sync

/-- A double that is read as a neighbour is saved as that neighbour, and the save
reports success. -/
theorem save_outcome_of_drift : ∃ (sync : Sync) (network : Network) (key : SubmissionKey)
    (ledger : Ledger),
    Connected sync.client network ∧ network.service.store.Sound ∧ ledger.Reachable ∧
    ((sync.save key ledger).run Network.exchange network).1 = .ok () ∧
    ¬ SaveIntent ledger key (network.faults = []) network.service.store
      ((sync.save key ledger).run Network.exchange network).2.service.store
      ((sync.save key ledger).run Network.exchange network).1 := by
  have reachable : Drift.ledger.Reachable := .ofText Drift.ofText_payload
  refine ⟨Drift.sync, Drift.network, Drift.key, Drift.ledger, Drift.connected, Drift.sound,
    reachable, Drift.saved, ?_⟩
  rw [(save_outcome Drift.connected Drift.sound reachable).2.2.1, Drift.saved]
  rintro ⟨durable, _⟩
  exact Drift.drifts ((Json.readText_keep_compress_iff reachable.canonical_toJson).2 durable)

end Sync

end Gradebook
