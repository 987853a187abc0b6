import Gradebook.Proofs.Grading.Operation

namespace Gradebook

namespace Controller

/-!
# The ledger as a log of edits

A run is any sequence of operations on a controller, over a link that answers as
it likes.  Beside the controller it keeps a history of what was seen from outside:
which ledgers the replies to the link held, whether grading mode was ever entered,
and which edits were accepted.

The main statement says that the ledger of the controller is a function of this
history.  It is missing until grading mode is entered for the first time; from
then on it is the one ledger that was fetched, with the entries of all gradable
cells made sure of and the accepted edits applied in the order in which they were
made.  So no order of toggles, failures, saves and disposal drops, repeats or
reorders an edit.
-/

/-! ## Operations -/

/-- Something that is done with a controller. -/
inductive Operation
  | setGradingMode (enabled : Bool)
  | edit (widget : Nat) (change : Edit)
  | beginSave
  | completeSave (result : Except SyncError Unit)
  | dispose

/-- How an operation ends. -/
inductive Answer
  | done (outcome : Except ControllerError Unit)
  | edited (outcome : Except ControllerError Ledger.Record)
  | begun (outcome : Except ControllerError SaveRequest)

/-- An operation that was performed: how it ended, what became of the controller
and of the link, and what was exchanged over the link. -/
structure Performed (σ : Type) where
  answer : Answer
  controller : Controller
  state : σ
  exchanges : List (Call × Reply)

/-- Perform an operation. -/
def Operation.perform {σ : Type} (link : Link σ) (controller : Controller) (state : σ) :
    Operation → Performed σ
  | .setGradingMode enabled =>
    let dialogue := controller.setGradingMode enabled
    let ((outcome, next), final) := dialogue.run link state
    ⟨.done outcome, next, final, dialogue.trace link state⟩
  | .edit widget change =>
    let (outcome, next) := controller.edit widget change
    ⟨.edited outcome, next, state, []⟩
  | .beginSave =>
    let (outcome, next) := controller.beginSave
    ⟨.begun outcome, next, state, []⟩
  | .completeSave result =>
    let (outcome, next) := controller.completeSave result
    ⟨.done outcome, next, state, []⟩
  | .dispose => ⟨.done (.ok ()), controller.dispose, state, []⟩

variable {σ : Type} {controller : Controller}

theorem coherent_perform (coherent : controller.Coherent) (link : Link σ) (state : σ)
    (operation : Operation) : (operation.perform link controller state).controller.Coherent := by
  cases operation with
  | setGradingMode enabled =>
      exact coherent_of_switches coherent (switches coherent link enabled state)
  | edit widget change => exact coherent_of_edits coherent (edits coherent widget change)
  | beginSave => exact coherent_of_begins coherent (begins controller)
  | completeSave result => exact coherent_completeSave coherent result
  | dispose => exact coherent_dispose coherent

/-- To know something of a controller after an operation it is enough to know it after
everything that an operation can do. -/
theorem perform_induction {motive : Controller → Prop} (coherent : controller.Coherent)
    (link : Link σ) (state : σ) (operation : Operation) (same : motive controller)
    (switched : ∀ {enabled fetched outcome next},
      Switches controller enabled fetched outcome next → motive next)
    (edited : ∀ {widget change outcome next}, Edits controller widget change outcome next →
      motive next)
    (begun : ∀ {outcome next}, Begins controller outcome next → motive next)
    (completed : motive ({ controller with saving := false }.enableAll true))
    (disposed : motive { controller.unbindAll with mode := .viewing, disposed := true }) :
    motive (operation.perform link controller state).controller := by
  cases operation with
  | setGradingMode enabled => exact switched (switches coherent link enabled state)
  | edit widget change => exact edited (edits coherent widget change)
  | beginSave => exact begun (begins controller)
  | completeSave result =>
      simp only [Operation.perform, completeSave]
      split_ifs
      · exact same
      · exact completed
  | dispose =>
      simp only [Operation.perform, dispose]
      split_ifs
      · exact same
      · exact disposed

/-- What a controller is for, which never changes. -/
def purpose (controller : Controller) : Sync × SubmissionKey × String × Notebook :=
  (controller.sync, controller.key, controller.notebookName, controller.notebook)

theorem purpose_of_switches {enabled : Bool} {fetched : List Ledger}
    {outcome : Except ControllerError Unit} {next : Controller}
    (switched : Switches controller enabled fetched outcome next) :
    next.purpose = controller.purpose := by
  cases switched <;> rfl

theorem purpose_of_edits {widget : Nat} {change : Edit}
    {outcome : Except ControllerError Ledger.Record} {next : Controller}
    (edited : Edits controller widget change outcome next) :
    next.purpose = controller.purpose := by
  cases edited <;> rfl

theorem purpose_of_begins {outcome : Except ControllerError SaveRequest} {next : Controller}
    (begun : Begins controller outcome next) : next.purpose = controller.purpose := by
  cases begun <;> rfl

theorem ledger_of_begins {outcome : Except ControllerError SaveRequest} {next : Controller}
    (begun : Begins controller outcome next) : next.ledger = controller.ledger := by
  cases begun <;> rfl

theorem purpose_perform (coherent : controller.Coherent) (link : Link σ) (state : σ)
    (operation : Operation) :
    (operation.perform link controller state).controller.purpose = controller.purpose :=
  perform_induction (motive := fun next => next.purpose = controller.purpose) coherent link state
    operation rfl purpose_of_switches purpose_of_edits purpose_of_begins rfl rfl

/-! ## Histories -/

/-- What was seen of a run from outside. -/
structure History where
  /-- Whether grading mode was ever switched on with success. -/
  entered : Bool
  /-- The ledgers that were fetched, in order. -/
  fetched : List Ledger
  /-- The edits that were accepted, in order: the cell and what was put into it. -/
  edits : List (String × Ledger.Setting)

/-- Whether an operation switched grading mode on. -/
def Operation.entered : Operation → Answer → Bool
  | .setGradingMode true, .done (.ok _) => true
  | _, _ => false

/-- The edit of a cell that an operation made. -/
def Operation.edits (controller : Controller) :
    Operation → Answer → List (String × Ledger.Setting)
  | .edit widget change, .edited (.ok _) =>
    match controller.bindings.lookup widget with
    | some binding => [(binding.cellId, change.setting binding.tool)]
    | none => []
  | _, _ => []

/-- The ledgers that were fetched in some exchanges. -/
def fetched (controller : Controller) (exchanges : List (Call × Reply)) : List Ledger :=
  exchanges.filterMap (controller.sync.fetched? controller.key)

/-- The history after one more operation. -/
def History.after (history : History) (controller : Controller) (operation : Operation)
    (performed : Performed σ) : History where
  entered := history.entered || operation.entered performed.answer
  fetched := history.fetched ++ controller.fetched performed.exchanges
  edits := history.edits ++ operation.edits controller performed.answer

/-- A controller in use, with what it has been used for. -/
structure Run (σ : Type) where
  controller : Controller
  state : σ
  history : History

/-- A run that has not begun. -/
def Run.start (controller : Controller) (state : σ) : Run σ :=
  ⟨controller, state, ⟨false, [], []⟩⟩

/-- Perform one more operation. -/
def Run.step (link : Link σ) (run : Run σ) (operation : Operation) : Run σ :=
  let performed := operation.perform link run.controller run.state
  ⟨performed.controller, performed.state, run.history.after run.controller operation performed⟩

/-- Perform operations one after the other. -/
def Run.steps (link : Link σ) (run : Run σ) (operations : List Operation) : Run σ :=
  operations.foldl (Run.step link) run

/-! ## Replaying edits -/

/-- Apply edits to a ledger, in order. -/
def replay (notebookName : String) :
    Ledger → List (String × Ledger.Setting) → Except LedgerError Ledger
  | ledger, [] => .ok ledger
  | ledger, (cell, setting) :: rest => do
    let ledger ← setting.apply ledger notebookName cell
    replay notebookName ledger rest

theorem replay_append {notebookName : String} {ledger next : Ledger}
    {edits more : List (String × Ledger.Setting)}
    (replayed : replay notebookName ledger edits = .ok next) :
    replay notebookName ledger (edits ++ more) = replay notebookName next more := by
  induction edits generalizing ledger with
  | nil =>
      cases replayed
      rfl
  | cons first rest inductionHypothesis =>
      obtain ⟨cell, setting⟩ := first
      obtain ⟨between, applied, replayed⟩ := Outcome.bind_eq_ok.1 replayed
      rw [List.cons_append, replay, applied]
      exact inductionHypothesis replayed

/-- What a history says about the ledger. -/
inductive History.Explains (history : History) (controller : Controller) : Prop
  | viewed (never : history.entered = false) (nothing : history.fetched = [])
    (untouched : history.edits = []) (missing : controller.ledger = none)
  | graded {loaded ledger : Ledger} (once : history.entered = true)
    (fetched : history.fetched = [loaded]) (held : controller.ledger = some ledger)
    (replayed : replay controller.notebookName
      (ensureAll controller.notebookName loaded (gradable controller.notebook)) history.edits =
        .ok ledger)

variable {history : History}

/-- A history goes on explaining as long as neither it nor the ledger changes. -/
theorem History.Explains.of_unchanged (explains : history.Explains controller)
    {next : Controller} (purpose : next.purpose = controller.purpose)
    (same : next.ledger = controller.ledger) {after : History}
    (entered : after.entered = true ↔ history.entered = true)
    (fetched : after.fetched = history.fetched) (edits : after.edits = history.edits) :
    after.Explains next := by
  have named : next.notebookName = controller.notebookName := congrArg (·.2.2.1) purpose
  have graded : next.notebook = controller.notebook := congrArg (·.2.2.2) purpose
  cases explains with
  | viewed never nothing untouched missing =>
      refine .viewed (Bool.eq_false_iff.2 fun once => ?_) (fetched.trans nothing)
        (edits.trans untouched) (same.trans missing)
      exact absurd (entered.1 once) (Bool.eq_false_iff.1 never)
  | graded once loaded held replayed =>
      refine .graded (entered.2 once) (fetched.trans loaded) (same.trans held) ?_
      rw [named, graded, edits]
      exact replayed

/-- A controller that holds a ledger has been entered. -/
theorem History.Explains.entered_of_held (explains : history.Explains controller)
    (held : controller.ledger.isSome) : history.entered = true := by
  cases explains with
  | viewed never nothing untouched missing =>
      rw [missing] at held
      cases held
  | graded once loaded held replayed => exact once

theorem explains_of_switches (explains : history.Explains controller)
    (coherent : controller.Coherent) {enabled : Bool} {fetched : List Ledger}
    {outcome : Except ControllerError Unit} {next : Controller}
    (switched : Switches controller enabled fetched outcome next) :
    History.Explains
      ⟨history.entered || Operation.entered (.setGradingMode enabled) (.done outcome),
        history.fetched ++ fetched, history.edits ++ []⟩ next := by
  have purpose := purpose_of_switches switched
  cases switched with
  | refused =>
      have refused : ∀ error, Operation.entered (.setGradingMode enabled) (.done (.error error)) =
          false := fun _ => by cases enabled <;> rfl
      refine explains.of_unchanged purpose rfl ?_ (List.append_nil _) (List.append_nil _)
      simp only [refused, Bool.or_false]
  | stays present =>
      refine explains.of_unchanged purpose rfl ?_ (List.append_nil _) (List.append_nil _)
      cases enabled with
      | false => simp only [Operation.entered, Bool.or_false]
      | true =>
          have once := explains.entered_of_held (coherent.graded (present rfl))
          simp only [Operation.entered, Bool.or_true, once]
  | leaves off =>
      subst off
      refine explains.of_unchanged purpose rfl ?_ (List.append_nil _) (List.append_nil _)
      simp only [Operation.entered, Bool.or_false]
  | returns held bound =>
      have once := explains.entered_of_held (Option.isSome_of_eq_some held)
      refine explains.of_unchanged purpose rfl ?_ (List.append_nil _) (List.append_nil _)
      simp only [once, Bool.true_or]
  | @begins ledger _ _ missing on _ bound =>
      subst on
      cases explains with
      | graded once fetched held replayed =>
          rw [missing] at held
          cases held
      | viewed never nothing untouched missing =>
          have once := Bool.or_true history.entered
          have fetched : history.fetched ++ [ledger] = [ledger] := congrArg (· ++ [ledger]) nothing
          exact .graded once fetched rfl (congrArg (replay _ _) (congrArg (· ++ []) untouched))

theorem explains_of_edits (explains : history.Explains controller) {widget : Nat} {change : Edit}
    {outcome : Except ControllerError Ledger.Record} {next : Controller}
    (edited : Edits controller widget change outcome next) :
    History.Explains
      ⟨history.entered || false, history.fetched ++ [],
        history.edits ++ Operation.edits controller (.edit widget change) (.edited outcome)⟩
      next := by
  have purpose := purpose_of_edits edited
  cases edited with
  | refused =>
      refine explains.of_unchanged purpose rfl ?_ (List.append_nil _) (List.append_nil _)
      simp only [Bool.or_false]
  | accepted idle found held changed about =>
      cases explains with
      | viewed never nothing untouched missing =>
          rw [missing] at held
          cases held
      | graded once fetched present replayed =>
          cases present.symm.trans held
          refine .graded ((Bool.or_false _).trans once) ((List.append_nil _).trans fetched) rfl ?_
          simp only [Operation.edits, found]
          rw [replay_append replayed, replay, changed]
          rfl

/-- One operation keeps the ledger explained. -/
theorem explains_step (link : Link σ) (coherent : controller.Coherent)
    (explains : history.Explains controller) (state : σ) (operation : Operation) :
    (history.after controller operation (operation.perform link controller state)).Explains
      (operation.perform link controller state).controller := by
  have purpose := purpose_perform coherent link state operation
  cases operation with
  | setGradingMode enabled =>
      exact explains_of_switches explains coherent (switches coherent link enabled state)
  | edit widget change => exact explains_of_edits explains (edits coherent widget change)
  | beginSave =>
      refine explains.of_unchanged purpose ?_ ?_ (List.append_nil _) (List.append_nil _)
      · exact ledger_of_begins (begins controller)
      · simp only [History.after, Operation.entered, Bool.or_false]
  | completeSave result =>
      refine explains.of_unchanged purpose ?_ ?_ (List.append_nil _) (List.append_nil _)
      · simp only [Operation.perform, completeSave]
        split_ifs <;> rfl
      · simp only [History.after, Operation.entered, Bool.or_false]
  | dispose =>
      refine explains.of_unchanged purpose ?_ ?_ (List.append_nil _) (List.append_nil _)
      · simp only [Operation.perform, dispose]
        split_ifs <;> rfl
      · simp only [History.after, Operation.entered, Bool.or_false]

/-! ## Runs -/

theorem coherent_and_explains_steps (link : Link σ) (run : Run σ) (operations : List Operation)
    (coherent : run.controller.Coherent) (explains : run.history.Explains run.controller) :
    (run.steps link operations).controller.purpose = run.controller.purpose ∧
      (run.steps link operations).controller.Coherent ∧
      (run.steps link operations).history.Explains (run.steps link operations).controller := by
  induction operations generalizing run with
  | nil => exact ⟨rfl, coherent, explains⟩
  | cons operation rest inductionHypothesis =>
      have purpose := purpose_perform coherent link run.state operation
      have later := inductionHypothesis (run.step link operation)
        (coherent_perform coherent link run.state operation)
        (explains_step link coherent explains run.state operation)
      exact ⟨later.1.trans purpose, later.2⟩

/-- A controller keeps its purpose, is coherent, and has its ledger explained by the
history of its run. -/
theorem explains_run (sync : Sync) (key : SubmissionKey) (notebookName : String)
    (notebook : Notebook) (host : Host) (link : Link σ) (state : σ)
    (operations : List Operation) :
    let run := (Run.start (new sync key notebookName notebook host) state).steps link operations
    run.controller.purpose = (sync, key, notebookName, notebook) ∧ run.controller.Coherent ∧
      run.history.Explains run.controller :=
  coherent_and_explains_steps link (Run.start (new sync key notebookName notebook host) state)
    operations (coherent_new sync key notebookName notebook host) (.viewed rfl rfl rfl rfl)

/-- In every run the ledger is missing until grading mode is entered for the first
time.  From then on it is the only ledger that was ever fetched, prepared for the
gradable cells, with the accepted edits applied in their order. -/
theorem ledger_eq_replay (sync : Sync) (key : SubmissionKey) (notebookName : String)
    (notebook : Notebook) (host : Host) (link : Link σ) (state : σ)
    (operations : List Operation) :
    let run := (Run.start (new sync key notebookName notebook host) state).steps link operations
    (run.controller.ledger.isSome ↔ run.history.entered = true) ∧
      (run.history.fetched = [] ∧ run.controller.ledger = none ∨
        ∃ loaded ledger, run.history.fetched = [loaded] ∧ run.controller.ledger = some ledger ∧
          replay notebookName (ensureAll notebookName loaded (gradable notebook))
            run.history.edits = .ok ledger) := by
  intro run
  obtain ⟨purpose, _, explains⟩ :=
    explains_run sync key notebookName notebook host link state operations
  have named : run.controller.notebookName = notebookName := congrArg (·.2.2.1) purpose
  have graded : run.controller.notebook = notebook := congrArg (·.2.2.2) purpose
  change History.Explains run.history run.controller at explains
  cases explains with
  | viewed never nothing untouched missing =>
      refine ⟨?_, .inl ⟨nothing, missing⟩⟩
      rw [missing, never]
      exact ⟨nofun, nofun⟩
  | @graded loaded ledger once fetched held replayed =>
      rw [named, graded] at replayed
      refine ⟨?_, .inr ⟨loaded, ledger, fetched, held, replayed⟩⟩
      rw [held, once]
      exact ⟨fun _ => rfl, fun _ => rfl⟩

end Controller

end Gradebook
