import Gradebook.Proofs.Client.Loading
import Gradebook.Proofs.Command.Change
import Gradebook.Proofs.Ledger.Depth
import Gradebook.Proofs.Ledger.Durable
import Gradebook.Proofs.Service.History

namespace Gradebook

/-!
# Grading all or nothing

A command for grading loads a ledger, changes up to three leaves of its payload and saves
it.  Only a save writes, and it starts when every change has been made.  So whatever fails
before leaves the store as it was, and so does a save that fails, unless it says that the
properties were saved.

A command that succeeds has loaded what was stored and stored what it changed.  Between
the two lie four texts.  When these are read back as what they were written from, the
stored properties are the old ones with the given leaves put in, and the stored record is
the old one, graded.
-/

open Json (Edits ReadsBack)

namespace Command

variable {change : GradeChange}

/-! ## The result of a command -/

/-- Why a command for grading fails. -/
inductive GradeFailure
  | loading (error : SyncError)
  | changing (error : LedgerError)
  | saving (error : SyncError)

/-- The message of a failure. -/
def GradeFailure.message : GradeFailure → String
  | .loading error | .saving error => error.message
  | .changing error => error.message

/-- What a command for grading says in the end. -/
def gradeReport : Except GradeFailure Ledger → Outcome
  | .ok saved => .printed saved.summary
  | .error failure => .failed failure.message

/-- A command for grading with its result: the ledger that was saved, or the step that
failed. -/
def gradeOrFail (sync : Sync) (key : SubmissionKey) (change : GradeChange) :
    Dialogue (Except GradeFailure Ledger) := do
  match ← sync.load key with
  | .error error => return .error (.loading error)
  | .ok loaded =>
    match applyChange change loaded with
    | .error error => return .error (.changing error)
    | .ok changed =>
      match ← sync.save key changed with
      | .error error => return .error (.saving error)
      | .ok () => return .ok changed

section Run

variable {σ : Type} (link : Link σ) (sync : Sync) (key : SubmissionKey) (change : GradeChange)
  (state : σ)

/-- The command says its result and does nothing else. -/
theorem run_gradeCell :
    (gradeCell sync key change).run link state =
      (gradeReport ((gradeOrFail sync key change).run link state).1,
        ((gradeOrFail sync key change).run link state).2) := by
  rw [gradeCell, gradeOrFail, Dialogue.run_bind, Dialogue.run_bind]
  cases ((sync.load key).run link state).1 with
  | error error => rfl
  | ok loaded =>
      dsimp only
      cases applyChange change loaded with
      | error error => rfl
      | ok changed =>
          dsimp only
          rw [Dialogue.run_bind, Dialogue.run_bind]
          cases ((sync.save key changed).run link
              ((sync.load key).run link state).2).1 with
          | error error => rfl
          | ok _ => rfl

/-- The result of the command, from those of its steps. -/
theorem run_gradeOrFail :
    let loads := (sync.load key).run link state
    (gradeOrFail sync key change).run link state =
      match loads.1 with
      | .error error => (.error (.loading error), loads.2)
      | .ok loaded =>
        match applyChange change loaded with
        | .error error => (.error (.changing error), loads.2)
        | .ok changed =>
          ((((sync.save key changed).run link loads.2).1.map fun _ => changed).mapError .saving,
            ((sync.save key changed).run link loads.2).2) := by
  intro loads
  rw [gradeOrFail, Dialogue.run_bind]
  cases ((sync.load key).run link state).1 with
  | error error => rfl
  | ok loaded =>
      dsimp only
      cases applyChange change loaded with
      | error error => rfl
      | ok changed =>
          dsimp only
          rw [Dialogue.run_bind]
          cases ((sync.save key changed).run link
              ((sync.load key).run link state).2).1 with
          | error error => rfl
          | ok _ => rfl

end Run

/-! ## The store after a command -/

/-- Whether the four texts that a command for grading exchanges with the service are read
back: those of the stored properties and record, and those of the ledger and record that
take their place. -/
structure ReadsAllBack (old : StoredSubmission) (saved : Ledger) : Prop where
  fetchedProperties : ReadsBack Json.keep id old.properties
  sentProperties : ReadsBack Json.keep id saved.toJson
  fetchedRecord : ReadsBack Submission.reader Submission.toJson old.submission
  sentRecord : ReadsBack Submission.reader Submission.toJson old.submission.graded

/-- What a command for grading has done to the store when it ends with some result. -/
def GradeOutcome (change : GradeChange) (key : SubmissionKey) (before after : Store) :
    Except GradeFailure Ledger → Prop
  | .ok saved => change.Finite ∧ ∃ old loaded, before.get? key = some old ∧
      Ledger.ofText old.properties.compress = .ok loaded ∧ applyChange change loaded = .ok saved ∧
      (ReadsAllBack old saved →
        Edits change.leaves old.properties saved.toJson ∧ Ledger.ofJson saved.toJson = .ok saved ∧
        after = before.modify key fun stored =>
          { stored with properties := saved.toJson, submission := old.submission.graded })
  | .error (.saving (.statusUpdate _)) => ∃ properties,
      after = before.modify key fun stored => { stored with properties }
  | .error _ => after = before

section Outcome

variable {sync : Sync} {network : Network} {key : SubmissionKey} {old : StoredSubmission}
  {loaded saved : Ledger}

/-- A change of what was loaded is a change of what is stored. -/
theorem edits_of_readsAllBack (canonical : old.Canonical) (readsBack : ReadsAllBack old saved)
    (read : Ledger.ofText old.properties.compress = .ok loaded)
    (applied : applyChange change loaded = .ok saved) :
    Edits change.leaves old.properties saved.toJson := by
  have durable : old.properties.Durable :=
    readsBack.fetchedProperties.durable canonical.2 Ledger.bounds_reader read
  have same : loaded.toJson = old.properties := Ledger.toJson_of_ofText canonical.2 durable read
  have puts := (puts_applyChange applied).2
  rw [same] at puts
  exact puts.edits change.apart_leaves

/-- A record that has come back has been graded. -/
theorem eq_graded_of_readsAllBack (readsBack : ReadsAllBack old saved) {record : Submission}
    (returned : old.submission.returned? = some record) : record = old.submission.graded := by
  rcases Submission.returned?_eq_some_iff.1 returned with ⟨fetched, read, taken⟩
  cases readsBack.fetchedRecord.eq Submission.bounds_reader read
  exact readsBack.sentRecord.eq Submission.bounds_reader (Service.received_eq_some_iff.1 taken).2

/-- A command that succeeds has stored what it changed. -/
theorem gradeOutcome_of_saved {after : Store} {before : Store} (canonical : before.Canonical)
    (found : before.get? key = some old)
    (read : Ledger.ofText old.properties.compress = .ok loaded)
    (applied : applyChange change loaded = .ok saved)
    (outcome : Sync.SaveOutcome saved key False before after (.ok ())) :
    GradeOutcome change key before after (.ok saved) := by
  rcases outcome with ⟨stored, properties, record, again, taken, returned, rfl⟩
  cases found.symm.trans again
  refine ⟨(puts_applyChange applied).1, old, loaded, found, read, applied, ?_⟩
  intro readsBack
  have reachable : saved.Reachable := reachable_of_applyChange (.ofText read) applied
  have accepted := (Service.received_eq_some_iff.1 taken).2
  have durable : saved.toJson.Durable :=
    readsBack.sentProperties.durable reachable.canonical_toJson Json.bounds_keep accepted
  have sent : properties = saved.toJson := readsBack.sentProperties.eq Json.bounds_keep accepted
  rw [sent, eq_graded_of_readsAllBack readsBack returned]
  exact ⟨edits_of_readsAllBack (canonical key old found) readsBack read applied,
    Ledger.ofJson_toJson reachable durable.plain, rfl⟩

/-- A save ends the command, and its failure is that of the command. -/
theorem gradeOutcome_of_saveOutcome {before after : Store} {result : Except SyncError Unit}
    (canonical : before.Canonical) (found : before.get? key = some old)
    (read : Ledger.ofText old.properties.compress = .ok loaded)
    (applied : applyChange change loaded = .ok saved)
    (outcome : Sync.SaveOutcome saved key False before after result) :
    GradeOutcome change key before after ((result.map fun _ => saved).mapError .saving) := by
  match result, outcome with
  | .ok (), outcome => exact gradeOutcome_of_saved canonical found read applied outcome
  | .error (.permissionDenied username lecture), outcome => exact outcome
  | .error (.fetch error), outcome => exact outcome
  | .error (.statusUpdate error), ⟨_, properties, _, _, _, stored⟩ => exact ⟨properties, stored⟩

/-- Where nothing listens nothing is loaded. -/
theorem gradeOutcome_of_unreachable (nowhere : network.address = none) :
    GradeOutcome change key network.service.store
      ((gradeOrFail sync key change).run Network.exchange network).2.service.store
      ((gradeOrFail sync key change).run Network.exchange network).1 := by
  have silent : ∀ call, Network.exchange call network = (none, network) := by
    intro call
    unfold Network.exchange
    rw [nowhere]
    rfl
  rw [run_gradeOrFail, Sync.load_eq]
  cases sync.authorize key with
  | error error => rfl
  | ok _ =>
      simp only [Dialogue.run, silent]
      rfl

theorem gradeOutcome_of_connected (connected : Connected sync.client network)
    (canonical : network.service.store.Canonical) :
    GradeOutcome change key network.service.store
      ((gradeOrFail sync key change).run Network.exchange network).2.service.store
      ((gradeOrFail sync key change).run Network.exchange network).1 := by
  rcases Sync.run_load connected with ⟨result, middle, ran, same, connectedMiddle, loads⟩
  rw [run_gradeOrFail, ran]
  dsimp only
  cases result with
  | error error => exact congrArg Service.store same
  | ok loaded =>
      dsimp only
      cases applied : applyChange change loaded with
      | error error => exact congrArg Service.store same
      | ok changed =>
          dsimp only
          rcases loads loaded rfl with ⟨old, found, read⟩
          have outcome := @Sync.saveOutcome_run _ _ key changed connectedMiddle False False.elim
          rw [same] at outcome
          exact gradeOutcome_of_saveOutcome canonical found read applied outcome

end Outcome

/-- A command for grading prints the summary of the ledger that it saved, or says why it
failed.  What it saved is what it loaded with the given leaves put in, and when its texts
are read back this is what the service holds afterwards, with a record of which only the
status has changed.  A command that fails has changed nothing, unless the properties were
saved and the status was not; then only the properties have changed.

The store of a service that was built from a seed is canonical, whatever it has been asked
(`Service.sound_and_canonical_of_ofSeed`). -/
theorem grade_all_or_nothing (surroundings : Surroundings) (arguments : List String)
    (url token : Option String) (target : Target) (change : GradeChange) (network : Network)
    (parsed : Arguments.parse arguments = some ⟨url, token, .grade target change⟩)
    (canonical : network.service.store.Canonical) (failing : Network.Failing network.faults) :
    let sync := syncFor surroundings (url <|> surroundings.environment.url?)
      (token <|> surroundings.environment.token?) target
    (∀ address, network.address = some address → sync.client.Knows address) →
      let ended := (gradeOrFail sync target.key change).run Network.exchange network
      (runArguments surroundings arguments).run Network.exchange network =
          (gradeReport ended.1, ended.2) ∧
        GradeOutcome change target.key network.service.store ended.2.service.store ended.1 := by
  intro sync knows ended
  constructor
  · rw [runArguments, parsed]
    exact run_gradeCell Network.exchange sync target.key change network
  · cases listens : network.address with
    | none => exact gradeOutcome_of_unreachable listens
    | some address =>
        exact gradeOutcome_of_connected ⟨⟨address, listens, knows address listens⟩, failing⟩ canonical

/-! ## A cell with a comment and one without -/

namespace Essay

/-- Grading properties with a cell that may be commented on and one that may not. -/
def payload : Json :=
  .object [("h", .object [("comments_dict", .object [("c", .object [])]),
    ("grades_dict", .object [("c", .object [("max_score", .number (.natural 10))]),
      ("d", .object [])])])]

/-- The record of the submission. -/
def record : Submission := ⟨3, .notGraded, .empty⟩

/-- A service that holds nothing but the submission. -/
def network : Network :=
  ⟨⟨⟨none⟩, Store.ofList [⟨1, 2, record, payload⟩]⟩, some "a", [], []⟩

/-- A command line that gives a cell a score, extra credit and a comment. -/
def arguments (cell : String) : List String :=
  ["grade", "--url", "a/services/grader", "--lecture", "1", "--assignment", "2",
    "--submission", "3", "--notebook", "h", "--cell", cell, "--score", "7",
    "--extra-credit", "0.5", "--comment", "good"]

/-- What the command line gives. -/
def given (cell : String) : GradeChange := ⟨"h", cell, some 7, some 0.5, some "good", none⟩

/-- The submission that the command line names. -/
def target : Target := ⟨1, 2, 3, .instructor⟩

/-- Surroundings without files and variables. -/
def surroundings : Surroundings := ⟨⟨[]⟩, .empty, .empty⟩

/-- Who runs the command. -/
def sync : Sync :=
  syncFor surroundings (some "a/services/grader" <|> surroundings.environment.url?)
    (none <|> surroundings.environment.token?) target

theorem canonical_payload : payload.Canonical := by
  simp only [payload, Json.Canonical, Json.CanonicalMembers, List.map_cons, List.map_nil, and_true]
  decide

theorem canonical : network.service.store.Canonical :=
  Store.canonical_ofList fun stored listed => by
    rw [List.mem_singleton.1 listed]
    exact ⟨Extra.every_empty Json.Canonical, canonical_payload⟩

theorem durable_payload : payload.Durable where
  steady := by
    simp only [payload, Json.Steady, Json.SteadyMembers, Number.reread_natural, and_self]
  plain := by
    simp only [payload, Json.Plain, Json.PlainMembers, List.head?_cons, List.head?_nil,
      Option.map_some, Option.map_none, and_true]
    decide
  shallow := by decide +kernel

/-- Grading properties in which the cell has been graded. -/
def edited : Json :=
  .object [("h", .object [
    ("comments_dict", .object [("c", .object [("manual_comment", .string "good")])]),
    ("grades_dict", .object [
      ("c", .object [("extra_credit", .ofFloat 0.5), ("manual_score", .ofFloat 7),
        ("max_score", .number (.natural 10))]),
      ("d", .object [])])])]

theorem putAll_leaves : Json.putAll (given "c").leaves payload = edited :=
  rfl

theorem durable_edited : edited.Durable where
  steady := by
    have score : (Json.ofFloat 7).Steady := by
      rw [Ledger.ofFloat_of_finite (by decide +kernel), Json.Steady]
      decide +kernel
    have credit : (Json.ofFloat 0.5).Steady := by
      rw [Ledger.ofFloat_of_finite (by decide +kernel), Json.Steady]
      decide +kernel
    simp only [edited, Json.Steady, Json.SteadyMembers, Number.reread_natural, score, credit,
      and_self]
  plain := by
    have number : ∀ x, (Json.ofFloat x).Plain := by
      intro x
      unfold Json.ofFloat
      split <;> simp only [Json.Plain]
    simp only [edited, Json.Plain, Json.PlainMembers, List.head?_cons, List.head?_nil,
      Option.map_some, Option.map_none, number, and_true]
    decide
  shallow := by decide +kernel

theorem durable_record (status : ManualStatus) :
    ({ record with manualStatus := status } : Submission).toJson.Durable where
  steady := by
    simp only [Submission.toJson, record, Extra.empty, Dict.empty, Json.Steady,
      Json.SteadyMembers, Number.reread_natural, and_self]
  plain := by
    simp only [Submission.toJson, record, Extra.empty, Dict.empty, Json.Plain, Json.PlainMembers,
      List.head?_cons, Option.map_some, and_true]
    decide
  shallow := by cases status <;> decide +kernel

theorem readsBack_record (status : ManualStatus) :
    ReadsBack Submission.reader Submission.toJson { record with manualStatus := status } :=
  fun _ => Submission.readText_toJson (Extra.every_empty Json.Canonical) (durable_record status)

theorem parse_arguments : Arguments.parse (arguments "c") =
      some ⟨some "a/services/grader", none, .grade target (given "c")⟩ ∧
    Arguments.parse (arguments "d") =
      some ⟨some "a/services/grader", none, .grade target (given "d")⟩ := by
  decide +kernel

theorem knows (address : String) (listens : network.address = some address) :
    sync.client.Knows address := by
  cases listens
  have base : sync.client.baseUrl = "a" ++ SubmissionKey.mount := by decide +kernel
  exact base

theorem saved : ((gradeOrFail sync target.key (given "c")).run Network.exchange network).1.isOk =
    true := by
  decide +kernel

/-- The change fails, after a score and extra credit that could be stored. -/
theorem exists_of_refused : ∃ error, ((gradeOrFail sync target.key (given "d")).run
    Network.exchange network).1 = .error (.changing error) := by
  have refused : (match ((gradeOrFail sync target.key (given "d")).run
      Network.exchange network).1 with | .error (.changing _) => true | _ => false) = true := by
    decide +kernel
  split at refused
  · next error result => exact ⟨error, result⟩
  · cases refused

theorem readsAllBack {loaded saved : Ledger} (read : Ledger.ofText payload.compress = .ok loaded)
    (applied : applyChange (given "c") loaded = .ok saved) :
    ReadsAllBack ⟨1, 2, record, payload⟩ saved where
  fetchedProperties _ := (Json.readText_keep_compress_iff canonical_payload).2 durable_payload
  sentProperties _ := by
    have same : saved.toJson = edited := by
      rw [(puts_applyChange applied).2.eq,
        Ledger.toJson_of_ofText canonical_payload durable_payload read, putAll_leaves]
    have reachable : saved.Reachable := reachable_of_applyChange (.ofText read) applied
    exact (Json.readText_keep_compress_iff reachable.canonical_toJson).2 (same ▸ durable_edited)
  fetchedRecord := readsBack_record .notGraded
  sentRecord := readsBack_record .manuallyGraded

end Essay

/-- A cell is given a score, extra credit and a comment, and nothing else is changed.  A cell
that may not be commented on is not given the score either. -/
theorem grade_all_or_nothing_of_essay :
    (∃ (saved : Ledger) (after : Network),
      (runArguments Essay.surroundings (Essay.arguments "c")).run Network.exchange Essay.network =
        (.printed saved.summary, after) ∧
      Edits (Essay.given "c").leaves Essay.payload saved.toJson ∧
      after.service.store.get? Essay.target.key =
        some ⟨1, 2, ⟨3, .manuallyGraded, .empty⟩, saved.toJson⟩) ∧
    ∃ message after,
      (runArguments Essay.surroundings (Essay.arguments "d")).run Network.exchange Essay.network =
        (.failed message, after) ∧
      after.service.store = Essay.network.service.store := by
  constructor
  · rcases grade_all_or_nothing Essay.surroundings (Essay.arguments "c") _ _ Essay.target
      (Essay.given "c") Essay.network Essay.parse_arguments.1 Essay.canonical nofun Essay.knows with
      ⟨ran, outcome⟩
    rcases Outcome.exists_of_isOk Essay.saved with ⟨saved, result⟩
    change GradeOutcome _ _ _ _ ((gradeOrFail Essay.sync _ _).run _ _).1 at outcome
    change _ = (gradeReport ((gradeOrFail Essay.sync _ _).run _ _).1, _) at ran
    rw [result] at outcome ran
    rcases outcome with ⟨_, old, loaded, found, read, applied, stores⟩
    cases found
    have readsBack : ReadsAllBack _ saved := Essay.readsAllBack read applied
    rcases stores readsBack with ⟨edits, _, stored⟩
    refine ⟨saved, _, ran, edits, ?_⟩
    rw [stored, Store.get?_modify]
    rfl
  · rcases grade_all_or_nothing Essay.surroundings (Essay.arguments "d") _ _ Essay.target
      (Essay.given "d") Essay.network Essay.parse_arguments.2 Essay.canonical nofun Essay.knows with
      ⟨ran, outcome⟩
    rcases Essay.exists_of_refused with ⟨error, result⟩
    change GradeOutcome _ _ _ _ ((gradeOrFail Essay.sync _ _).run _ _).1 at outcome
    change _ = (gradeReport ((gradeOrFail Essay.sync _ _).run _ _).1, _) at ran
    rw [result] at outcome ran
    exact ⟨_, _, ran, outcome⟩

end Command

end Gradebook
