import Gradebook.Proofs.Client.Saving
import Gradebook.Proofs.Grading.Log

namespace Gradebook

namespace Controller

/-!
# Saving beside the controller

A save that has begun goes its own way with a snapshot of the ledger.  Until its
result is handed over the controller may be used in any other way, and between any
two of those uses the save may ask its next question.

`Flight.Guarded` says what stays true meanwhile.  The ledger of the controller is
the snapshot, because edits are refused and entering grading mode again finds every
gradable cell ensured.  The controller asks nothing of the network, so the save has
it to itself and ends as if nothing else had happened.  What is stored when it
succeeds is therefore what the service received of the ledger that the grader sees.
-/

/-! ## Saves under way -/

/-- A save under way, beside the controller that began it. -/
structure Flight where
  controller : Controller
  network : Network
  /-- What the save has still to ask. -/
  remaining : Dialogue (Except SyncError Unit)

/-- Something that happens while a save is under way: the controller is used, but
not to end the save, or the save asks its next question. -/
inductive Event
  | operate (operation : Operation) (within : ∀ result, operation ≠ .completeSave result)
  | proceed

/-- Whether the save asks its next question. -/
def Event.proceeds : Event → Bool
  | .proceed => true
  | .operate _ _ => false

namespace Flight

/-- The save of a controller for which it has just made a request. -/
def start (controller : Controller) (network : Network) (request : SaveRequest) : Flight :=
  ⟨controller, network, request.run⟩

/-- One more event. -/
def step (flight : Flight) : Event → Flight
  | .operate operation _ =>
    let performed := operation.perform Network.exchange flight.controller flight.network
    { flight with controller := performed.controller, network := performed.state }
  | .proceed =>
    match flight.remaining with
    | .done _ => flight
    | .ask call next =>
      let (reply, network) := Network.exchange call flight.network
      { flight with network, remaining := next reply }

/-- Events one after the other. -/
def steps (flight : Flight) (events : List Event) : Flight :=
  events.foldl step flight

end Flight

/-! ## The controller meanwhile -/

variable {σ : Type} {controller : Controller} {request : SaveRequest}

/-- A controller while the save of a request is under way. -/
structure Guarded (controller : Controller) (request : SaveRequest) : Prop where
  coherent : controller.Coherent
  saving : controller.saving = true
  /-- The ledger is the snapshot. -/
  held : controller.ledger = some request.ledger
  /-- Another request would be for the same submission. -/
  meant : controller.sync = request.sync ∧ controller.key = request.key

theorem guarded_of_begins (coherent : controller.Coherent) {next : Controller}
    (begun : Begins controller (.ok request) next) : next.Guarded request := by
  have kept := coherent_of_begins coherent begun
  cases begun with
  | begins opened idle held => exact ⟨kept, rfl, held, rfl, rfl⟩

namespace Guarded

/-- No edit is made. -/
theorem edit_eq (guarded : controller.Guarded request) (widget : Nat) (change : Edit) :
    ∃ error, controller.edit widget change = (.error error, controller) := by
  have edited := edits guarded.coherent widget change
  cases made : controller.edit widget change with
  | mk answer next =>
      rw [made] at edited
      cases edited with
      | refused => exact ⟨_, rfl⟩
      | accepted idle found held changed about =>
          rw [guarded.saving] at idle
          cases idle

/-- No second save begins. -/
theorem beginSave_eq (guarded : controller.Guarded request) :
    ∃ error, controller.beginSave = (.error error, controller) := by
  have begun := begins controller
  cases made : controller.beginSave with
  | mk answer next =>
      rw [made] at begun
      cases begun with
      | refused => exact ⟨_, rfl⟩
      | begins opened idle held =>
          rw [guarded.saving] at idle
          cases idle

/-- Switching leaves the ledger alone. -/
theorem of_switches (guarded : controller.Guarded request) {enabled : Bool}
    {fetched : List Ledger} {outcome : Except ControllerError Unit} {next : Controller}
    (switched : Switches controller enabled fetched outcome next) : next.Guarded request := by
  have kept := coherent_of_switches guarded.coherent switched
  cases switched with
  | refused => exact guarded
  | stays present => exact guarded
  | leaves off => exact ⟨kept, guarded.saving, guarded.held, guarded.meant⟩
  | returns held bound => exact ⟨kept, guarded.saving, guarded.held, guarded.meant⟩
  | begins missing on reachable bound =>
      rw [guarded.held] at missing
      cases missing

theorem dispose (guarded : controller.Guarded request) : controller.dispose.Guarded request := by
  have kept := coherent_dispose guarded.coherent
  constructor
  · exact kept
  · unfold Controller.dispose
    split_ifs
    · exact guarded.saving
    · exact guarded.saving
  · unfold Controller.dispose
    split_ifs
    · exact guarded.held
    · exact guarded.held
  · unfold Controller.dispose
    split_ifs
    · exact guarded.meant
    · exact guarded.meant

/-- However the controller is used, the ledger stays the snapshot and the network
is left to the save. -/
theorem perform (guarded : controller.Guarded request) (link : Link σ) (state : σ)
    {operation : Operation} (within : ∀ result, operation ≠ .completeSave result) :
    (operation.perform link controller state).controller.Guarded request ∧
      (operation.perform link controller state).state = state := by
  cases operation with
  | setGradingMode enabled =>
      constructor
      · exact guarded.of_switches (switches guarded.coherent link enabled state)
      · obtain ⟨outcome, asked⟩ := setGradingMode_of_held guarded.held enabled
        simp only [Operation.perform, asked, Dialogue.run]
  | edit widget change =>
      obtain ⟨error, refused⟩ := guarded.edit_eq widget change
      simp only [Operation.perform, refused, and_true]
      exact guarded
  | beginSave =>
      obtain ⟨error, refused⟩ := guarded.beginSave_eq
      simp only [Operation.perform, refused, and_true]
      exact guarded
  | completeSave result => exact absurd rfl (within result)
  | dispose => exact ⟨guarded.dispose, rfl⟩

/-- Ending the save leaves the ledger alone. -/
theorem ledger_completeSave (guarded : controller.Guarded request)
    (result : Except SyncError Unit) :
    (controller.completeSave result).2.ledger = some request.ledger := by
  unfold completeSave
  split_ifs
  · exact guarded.held
  · exact guarded.held

/-- Once the save has ended, the next request is the same. -/
theorem beginSave_completeSave (guarded : controller.Guarded request)
    (opened : controller.disposed = false) (result : Except SyncError Unit) :
    (controller.completeSave result).2.beginSave.1 = .ok request := by
  obtain ⟨sync, key⟩ := guarded.meant
  unfold completeSave
  rw [if_neg (Bool.eq_false_iff.1 opened)]
  simp only [enableAll, beginSave, opened, guarded.held, sync, key, Bool.false_eq_true, if_false]

end Guarded

/-! ## The save meanwhile -/

namespace Flight

variable {flight : Flight} {network : Network}

/-- A save of a request that began on a network, at any time until its result is
handed over. -/
structure Underway (flight : Flight) (request : SaveRequest) (network : Network) : Prop where
  guarded : flight.controller.Guarded request
  /-- It will end as if it had been performed at once. -/
  ends : flight.remaining.run Network.exchange flight.network =
    request.run.run Network.exchange network

theorem underway_step (underway : flight.Underway request network) (event : Event) :
    (flight.step event).Underway request network := by
  obtain ⟨guarded, ends⟩ := underway
  cases event with
  | operate operation within =>
      obtain ⟨kept, unused⟩ := guarded.perform Network.exchange flight.network within
      refine ⟨kept, ?_⟩
      simp only [step, unused]
      exact ends
  | proceed =>
      cases remaining : flight.remaining with
      | done result =>
          simp only [step, remaining]
          exact ⟨guarded, ends⟩
      | ask call next =>
          simp only [step, remaining]
          rw [remaining] at ends
          exact ⟨guarded, ends⟩

theorem underway_steps (underway : flight.Underway request network) (events : List Event) :
    (flight.steps events).Underway request network := by
  induction events generalizing flight with
  | nil => exact underway
  | cons event rest inductionHypothesis => exact inductionHypothesis (underway_step underway event)

theorem underway_start (coherent : controller.Coherent)
    (begun : controller.beginSave.1 = .ok request) (network : Network) :
    (start controller.beginSave.2 network request).Underway request network := by
  have begins := begins controller
  rw [begun] at begins
  exact ⟨guarded_of_begins coherent begins, rfl⟩

/-- When nothing is left to ask, the network is as the save leaves it. -/
theorem Underway.run_eq (underway : flight.Underway request network)
    {result : Except SyncError Unit} (ended : flight.remaining = .done result) :
    request.run.run Network.exchange network = (result, flight.network) := by
  rw [← underway.ends, ended]
  rfl

theorem within_start (controller : Controller) (network : Network) (request : SaveRequest) :
    (start controller network request).remaining.Within 3 :=
  Sync.within_save request.sync request.key request.ledger

/-- Proceeding uses up one question, if there is one left. -/
theorem within_proceed {bound : Nat} (within : flight.remaining.Within bound) :
    (flight.step .proceed).remaining.Within (bound - 1) := by
  cases remaining : flight.remaining with
  | done result =>
      simp only [step, remaining]
      exact .done (bound - 1) result
  | ask call next =>
      rw [remaining] at within
      simp only [step, remaining]
      cases within with
      | ask later => exact later _

/-- A save ends once it could ask all that it may ask. -/
theorem exists_ended {bound : Nat} {events : List Event} (within : flight.remaining.Within bound)
    (enough : bound ≤ events.countP Event.proceeds) :
    ∃ result, (flight.steps events).remaining = .done result := by
  induction events generalizing flight bound with
  | nil =>
      cases remaining : flight.remaining with
      | done result => exact ⟨result, remaining⟩
      | ask call next =>
          rw [remaining] at within
          cases within with
          | ask later => cases enough
  | cons event rest inductionHypothesis =>
      cases event with
      | operate operation allowed => exact inductionHypothesis within enough
      | proceed =>
          rw [List.countP_cons_of_pos rfl] at enough
          have fewer : bound - 1 ≤ rest.countP Event.proceeds := by omega
          exact inductionHypothesis (within_proceed within) fewer

/-- After that its result is the one that it would have had at once. -/
theorem Underway.remaining_eq (underway : flight.Underway request network) {bound : Nat}
    {events : List Event} (within : flight.remaining.Within bound)
    (enough : bound ≤ events.countP Event.proceeds) :
    (flight.steps events).remaining = .done (request.run.run Network.exchange network).1 := by
  obtain ⟨result, ended⟩ := exists_ended within enough
  rw [(underway_steps underway events).run_eq ended, ended]

end Flight

/-- From the request of a save until its result is handed over, the ledger of the
controller is the snapshot that the request owns.  Edits and second saves are
refused, ending the save leaves the ledger alone, and the next request is the same.
A save that reports success has stored what the service received of that ledger,
which is its payload just when the payload is durable. -/
theorem ledger_eq_snapshot (sync : Sync) (key : SubmissionKey) (notebookName : String)
    (notebook : Notebook) (host : Host) (link : Link σ) (state : σ) (earlier : List Operation)
    {network : Network} (connected : Connected sync.client network)
    (sound : network.service.store.Sound) {request : SaveRequest}
    (begun : ((Run.start (new sync key notebookName notebook host) state).steps link
      earlier).controller.beginSave.1 = .ok request) (events : List Event) :
    let controller := ((Run.start (new sync key notebookName notebook host) state).steps link
      earlier).controller
    let flight := (Flight.start controller.beginSave.2 network request).steps events
    flight.controller.ledger = some request.ledger ∧
      (∀ widget change, ∃ error,
        flight.controller.edit widget change = (.error error, flight.controller)) ∧
      (∃ error, flight.controller.beginSave = (.error error, flight.controller)) ∧
      (∀ result, (flight.controller.completeSave result).2.ledger = some request.ledger ∧
        (flight.controller.disposed = false →
          (flight.controller.completeSave result).2.beginSave.1 = .ok request)) ∧
      ∀ result, flight.remaining = .done result →
        (result = .ok () ∨ ∃ error, result = .error (.statusUpdate error)) →
        ∃ stored, flight.network.service.store.get? key = some stored ∧
          Service.received Json.keep request.ledger.toJson = some stored.properties ∧
          (stored.properties = request.ledger.toJson ↔ request.ledger.toJson.Durable) := by
  intro controller flight
  obtain ⟨purpose, coherent, _⟩ :=
    explains_run sync key notebookName notebook host link state earlier
  change controller.purpose = _ at purpose
  change controller.Coherent at coherent
  have initial := Flight.underway_start coherent begun network
  have underway : flight.Underway request network := Flight.underway_steps initial events
  have guarded := underway.guarded
  refine ⟨guarded.held, guarded.edit_eq, guarded.beginSave_eq, fun result =>
    ⟨guarded.ledger_completeSave result, fun opened => guarded.beginSave_completeSave opened result⟩,
    ?_⟩
  intro result ended saved
  have reachable := guarded.coherent.reachable _ guarded.held
  obtain ⟨sameSync, sameKey⟩ := initial.guarded.meant
  have kept := (purpose_of_begins (begins controller)).trans purpose
  have requestSync : request.sync = sync := sameSync.symm.trans (congrArg (·.1) kept)
  have requestKey : request.key = key := sameKey.symm.trans (congrArg (·.2.1) kept)
  have ran : (sync.save key request.ledger).run Network.exchange network =
      (result, flight.network) := by
    rw [← requestSync, ← requestKey]
    exact underway.run_eq ended
  have outcome := @Sync.run_save sync network key request.ledger connected sound
  rw [ran] at outcome
  obtain ⟨stored, found, taken⟩ := outcome.exists_stored saved
  exact ⟨stored, found, taken, Sync.eq_toJson_iff reachable taken⟩

/-- A double that is read as a neighbour is stored as that neighbour, while the
controller goes on holding the double. -/
theorem ledger_eq_snapshot_of_drift : ∃ (sync : Sync) (key : SubmissionKey)
    (notebookName : String) (notebook : Notebook) (host : Host) (link : Link Unit)
    (earlier : List Operation) (network : Network) (request : SaveRequest) (events : List Event),
    let controller := ((Run.start (new sync key notebookName notebook host) ()).steps link
      earlier).controller
    let flight := (Flight.start controller.beginSave.2 network request).steps events
    Connected sync.client network ∧ network.service.store.Sound ∧
      controller.beginSave.1 = .ok request ∧ flight.remaining = .done (.ok ()) ∧
      flight.controller.ledger = some request.ledger ∧
      ∃ stored, flight.network.service.store.get? key = some stored ∧
        stored.properties ≠ request.ledger.toJson := by
  let link : Link Unit := fun _ state => (some (.plain 200 Drift.payload), state)
  let viewed := new Drift.sync Drift.key "h" ⟨[], .null⟩ (.ofIssue id)
  let graded : Controller := { viewed with ledger := some Drift.ledger, mode := .grading }
  let request : SaveRequest := ⟨Drift.sync, Drift.key, Drift.ledger⟩
  let events : List Event := [.proceed, .proceed, .proceed]
  have loads : Sync.loaded (some (.plain 200 Drift.payload)) = .ok Drift.ledger := by
    have plain : Client.plainText Drift.payload = Drift.payload := by decide +kernel
    change (Ledger.ofText (Client.plainText Drift.payload)).mapError SyncError.parse = _
    rw [plain, Drift.ofText_payload]
    rfl
  have enters : (viewed.setGradingMode true).run link () = ((.ok (), graded), ()) := by
    have loaded : (Drift.sync.load Drift.key).run link () =
        (.ok Drift.ledger, ()) := by
      rw [Sync.load_eq, Drift.authorize_key]
      simp only [Dialogue.run, link, loads]
    change ((Drift.sync.load Drift.key) >>= _ : Dialogue _).run link () = _
    rw [Dialogue.run_bind, loaded]
    rfl
  have used : ((Run.start viewed ()).steps link [.setGradingMode true]).controller = graded := by
    simp only [Run.steps, Run.step, Run.start, Operation.perform, List.foldl_cons, List.foldl_nil,
      enters]
  have begun : ((Run.start viewed ()).steps link [.setGradingMode true]).controller.beginSave.1 =
      .ok request := by
    rw [used]
    rfl
  have saved : (request.run.run Network.exchange Drift.network).1 = .ok () := by
    rw [SaveRequest.run]
    exact Drift.saved
  have coherent := (explains_run Drift.sync Drift.key "h" ⟨[], .null⟩ (.ofIssue id) link ()
    [.setGradingMode true]).2.1
  have enough : 3 ≤ events.countP Event.proceeds := Nat.le_refl 3
  have ended := (Flight.underway_start coherent begun Drift.network).remaining_eq
    (Flight.within_start _ _ _) enough
  rw [saved] at ended
  obtain ⟨held, _, _, _, stores⟩ := ledger_eq_snapshot Drift.sync Drift.key "h" ⟨[], .null⟩
    (.ofIssue id) link () [.setGradingMode true] Drift.connected Drift.sound begun events
  obtain ⟨stored, found, taken, _⟩ := stores (.ok ()) ended (.inl rfl)
  refine ⟨Drift.sync, Drift.key, "h", ⟨[], .null⟩, .ofIssue id, link, [.setGradingMode true],
    Drift.network, request, events, Drift.connected, Drift.sound, begun, ended, held, stored,
    found, ?_⟩
  intro kept
  have read := (Service.received_eq_some_iff.1 taken).2
  rw [kept] at read
  exact Drift.drifts read

end Controller

end Gradebook
