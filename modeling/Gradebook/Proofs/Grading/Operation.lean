import Gradebook.Grading.Controller
import Gradebook.Proofs.Client.Dialogue
import Gradebook.Proofs.Ledger.Cell
import Mathlib.Data.List.Forall2

namespace Gradebook

/-!
# What one operation of a controller can do

Grading mode can be entered many times, and every time the entries of all
gradable cells are made sure of in the live ledger.  That this changes nothing
after the first time, and never fails, rests on `Controller.Coherent`: in a ledger
that is held every gradable cell is ensured, and every widget is bound to a
gradable cell.

For each operation that can change the ledger one statement lists all that it can
do to a coherent controller.  What holds along whole runs is derived from these
statements alone.
-/

/-- The setter that stands for an edit of a cell.  Scores are checked against the
point budget of the cell, which is zero if it has none. -/
def Edit.setting (tool : Tool) : Edit → Ledger.Setting
  | .manualScore score => .manualScoreChecked score (tool.points.getD 0)
  | .extraCredit amount => .extraCreditChecked amount
  | .comment text => .comment text
  | .needsManualGrade flag => .needsManualGrade flag

namespace Controller

/-! ## Preparing the cells -/

/-- Make sure of the entries of cells, in order. -/
def ensureAll (notebookName : String) (ledger : Ledger) (cells : List Gradable) : Ledger :=
  cells.foldl (fun ledger cell => (ledger.ensureEntry notebookName cell.cellId cell.tool).2) ledger

/-- Whether a binding is the one of a cell, with its record in a ledger. -/
structure Binds (notebookName : String) (ledger : Ledger) (cell : Gradable) (binding : Binding) :
    Prop where
  notebook : binding.notebook = notebookName
  cellIndex : binding.cellIndex = cell.cellIndex
  tool : binding.tool = cell.tool
  record : ledger.record notebookName cell.cellId = .ok binding.record

/-- Whether a widget is bound to one of the cells. -/
def Bound (notebookName : String) (cells : List Gradable) (binding : Binding) : Prop :=
  binding.notebook = notebookName ∧ ∃ cell ∈ cells, binding.cellId = cell.cellId

variable {notebookName : String} {cells : List Gradable} {ledger : Ledger}

theorem ensured_ensureAll_of_ensured {cell : String} (ensured : ledger.Ensured notebookName cell) :
    (ensureAll notebookName ledger cells).Ensured notebookName cell := by
  induction cells generalizing ledger with
  | nil => exact ensured
  | cons first rest inductionHypothesis =>
      exact inductionHypothesis (Ledger.ensured_ensureEntry ensured notebookName first.cellId _)

/-- All cells are ensured afterwards. -/
theorem ensured_ensureAll {cell : Gradable} (listed : cell ∈ cells) :
    (ensureAll notebookName ledger cells).Ensured notebookName cell.cellId := by
  induction cells generalizing ledger with
  | nil => cases listed
  | cons first rest inductionHypothesis =>
      rw [ensureAll, List.foldl_cons]
      rcases List.mem_cons.1 listed with rfl | later
      · exact ensured_ensureAll_of_ensured (Ledger.ensured_ensureEntry_self ledger _ _ _)
      · exact inductionHypothesis later

theorem reachable_ensureAll (reachable : ledger.Reachable) :
    (ensureAll notebookName ledger cells).Reachable := by
  induction cells generalizing ledger with
  | nil => exact reachable
  | cons first rest inductionHypothesis =>
      exact inductionHypothesis (.ensureEntry reachable notebookName first.cellId first.tool)

/-- Where all cells are ensured already, nothing changes. -/
theorem ensureAll_of_ensured
    (ensured : ∀ cell ∈ cells, ledger.Ensured notebookName cell.cellId) :
    ensureAll notebookName ledger cells = ledger := by
  induction cells with
  | nil => rfl
  | cons first rest inductionHypothesis =>
      rw [ensureAll, List.foldl_cons,
        Ledger.ensureEntry_of_ensured (ensured first List.mem_cons_self) first.tool]
      exact inductionHypothesis fun cell later => ensured cell (List.mem_cons_of_mem first later)

/-- Other cells get their entries without a change to this record. -/
theorem record_ensureAll {cell : String} {record : Ledger.Record}
    (taken : ledger.record notebookName cell = .ok record) :
    (ensureAll notebookName ledger cells).record notebookName cell = .ok record := by
  induction cells generalizing ledger with
  | nil => exact taken
  | cons first rest inductionHypothesis =>
      exact inductionHypothesis (Ledger.record_ensureEntry taken notebookName first.cellId _)

/-- Preparing cells never fails, and does no more than to make sure of their
entries.  Every cell gets a binding with its record. -/
theorem exists_prepare (notebookName : String) (ledger : Ledger) (cells : List Gradable) :
    ∃ bindings,
      prepare notebookName ledger cells = (ensureAll notebookName ledger cells, .ok bindings) ∧
        List.Forall₂ (Binds notebookName (ensureAll notebookName ledger cells)) cells
          bindings := by
  induction cells generalizing ledger with
  | nil => exact ⟨[], rfl, .nil⟩
  | cons first rest inductionHypothesis =>
      have ensured := Ledger.ensured_ensureEntry_self ledger notebookName first.cellId first.tool
      rcases Ledger.record_of_ensured ensured with ⟨record, taken, _⟩
      rcases inductionHypothesis (ledger.ensureEntry notebookName first.cellId first.tool).2
        with ⟨bindings, prepared, binds⟩
      have kept : (ensureAll notebookName ledger (first :: rest)).record notebookName
          first.cellId = .ok record := @record_ensureAll _ rest _ _ _ taken
      refine ⟨⟨notebookName, first.cellIndex, first.tool, record⟩ :: bindings, ?_, ?_⟩
      · simp only [prepare, taken, prepared, ensureAll, List.foldl_cons, Except.map]
      · exact .cons ⟨rfl, rfl, rfl, kept⟩ binds

theorem Binds.cellId {cell : Gradable} {binding : Binding}
    (binds : Binds notebookName ledger cell binding) : binding.cellId = cell.cellId :=
  Ledger.cellId_of_record binds.record

theorem bound_of_binds {bindings : List Binding}
    (binds : List.Forall₂ (Binds notebookName ledger) cells bindings) :
    ∀ binding ∈ bindings, Bound notebookName cells binding := by
  intro binding listed
  rcases Json.exists_of_forall₂ binds binding listed with ⟨cell, member, binds⟩
  exact ⟨binds.notebook, cell, member, binds.cellId⟩

theorem mem_of_mem_attachAll {saving : Bool} {host : Host} {bindings : List Binding}
    {entry : Nat × Binding} (attached : entry ∈ (attachAll saving host bindings).1) :
    entry.2 ∈ bindings := by
  induction bindings generalizing host with
  | nil => cases attached
  | cons first rest inductionHypothesis =>
      simp only [attachAll, List.mem_cons] at attached
      rcases attached with rfl | later
      · exact List.mem_cons_self
      · exact List.mem_cons_of_mem first (inductionHypothesis later)

/-! ## Coherent controllers -/

/-- What every controller satisfies at all times. -/
structure Coherent (controller : Controller) : Prop where
  /-- A ledger that is held was fetched and edited. -/
  reachable : ∀ ledger, controller.ledger = some ledger → ledger.Reachable
  /-- In a ledger that is held every gradable cell is ensured. -/
  ensured : ∀ ledger, controller.ledger = some ledger → ∀ cell ∈ gradable controller.notebook,
    ledger.Ensured controller.notebookName cell.cellId
  /-- A notebook is graded only with a ledger. -/
  graded : controller.mode = .grading → controller.ledger.isSome
  /-- Widgets belong to gradable cells. -/
  bound : ∀ entry ∈ controller.bindings,
    Bound controller.notebookName (gradable controller.notebook) entry.2
  /-- A view that was closed is not graded. -/
  opened : controller.mode = .grading → controller.disposed = false
  /-- While a notebook is viewed there are no widgets. -/
  viewed : controller.mode = .viewing → controller.bindings = []

theorem coherent_new (sync : Sync) (key : SubmissionKey) (notebookName : String)
    (notebook : Notebook) (host : Host) : (new sync key notebookName notebook host).Coherent where
  reachable ledger impossible := by cases impossible
  ensured ledger impossible := by cases impossible
  graded impossible := by cases impossible
  bound entry impossible := absurd impossible List.not_mem_nil
  opened impossible := by cases impossible
  viewed _ := rfl

/-! ## Switching -/

/-- What entering grading mode with a ledger does to the host and to the bindings. -/
structure Attaches (controller : Controller) (ledger : Ledger) (host : Host)
    (bindings : List (Nat × Binding)) : Prop where
  opened : controller.disposed = false
  viewed : controller.mode = .viewing
  /-- Every gradable cell gets a widget, in document order. -/
  made : ∃ made,
    List.Forall₂ (Binds controller.notebookName ledger) (gradable controller.notebook) made ∧
      host = (attachAll controller.saving controller.host made).2 ∧
      bindings = controller.bindings ++ (attachAll controller.saving controller.host made).1

/-- What switching grading mode on or off can do, with the ledgers that are fetched
for it. -/
inductive Switches (controller : Controller) (enabled : Bool) :
    List Ledger → Except ControllerError Unit → Controller → Prop
  /-- Nothing changes, and nothing was fetched.  Leaving is refused only when the view
  was closed. -/
  | refused {error : ControllerError} (closed : enabled = false → controller.disposed = true) :
    Switches controller enabled [] (.error error) controller
  /-- The mode is the present one. -/
  | stays (present : enabled = true → controller.mode = .grading)
    (absent : enabled = false → controller.mode = .viewing) :
    Switches controller enabled [] (.ok ()) controller
  | leaves (off : enabled = false) (opened : controller.disposed = false)
    (graded : controller.mode = .grading) :
    Switches controller enabled [] (.ok ()) { controller.unbindAll with mode := .viewing }
  /-- Grading goes on with the ledger that is held. -/
  | returns {ledger : Ledger} {host : Host} {bindings : List (Nat × Binding)}
    (held : controller.ledger = some ledger)
    (bound : ∀ entry ∈ bindings,
      Bound controller.notebookName (gradable controller.notebook) entry.2)
    (attaches : controller.Attaches ledger host bindings) (on : enabled = true) :
    Switches controller enabled [] (.ok ()) { controller with host, bindings, mode := .grading }
  /-- Grading begins with a ledger that was fetched. -/
  | begins {ledger : Ledger} {host : Host} {bindings : List (Nat × Binding)}
    (missing : controller.ledger = none) (on : enabled = true) (reachable : ledger.Reachable)
    (bound : ∀ entry ∈ bindings,
      Bound controller.notebookName (gradable controller.notebook) entry.2)
    (attaches : controller.Attaches
      (ensureAll controller.notebookName ledger (gradable controller.notebook)) host bindings) :
    Switches controller enabled [ledger] (.ok ())
      { controller with
        host
        ledger := some (ensureAll controller.notebookName ledger (gradable controller.notebook))
        bindings
        mode := .grading }

variable {controller : Controller}

/-- Entering with a ledger succeeds. -/
theorem exists_enterWith (coherent : controller.Coherent) (opened : controller.disposed = false)
    (viewed : controller.mode = .viewing) (ledger : Ledger) :
    ∃ host bindings,
      controller.enterWith ledger = (.ok (), { controller with
        host
        ledger := some (ensureAll controller.notebookName ledger (gradable controller.notebook))
        bindings
        mode := .grading }) ∧
      (∀ entry ∈ bindings,
        Bound controller.notebookName (gradable controller.notebook) entry.2) ∧
      controller.Attaches
        (ensureAll controller.notebookName ledger (gradable controller.notebook)) host
        bindings := by
  rcases exists_prepare controller.notebookName ledger (gradable controller.notebook)
    with ⟨made, prepared, binds⟩
  let attached := attachAll controller.saving controller.host made
  refine ⟨attached.2, controller.bindings ++ attached.1, ?_, ?_, opened, viewed, made, binds,
    rfl, rfl⟩
  · simp only [enterWith, prepared, attached]
  · intro entry listed
    rcases List.mem_append.1 listed with before | attached
    · exact coherent.bound entry before
    · exact bound_of_binds binds entry.2 (mem_of_mem_attachAll attached)

/-- A controller that holds a ledger asks nothing when it is switched. -/
theorem setGradingMode_of_held {ledger : Ledger} (held : controller.ledger = some ledger)
    (enabled : Bool) : ∃ outcome, controller.setGradingMode enabled = .done outcome := by
  unfold setGradingMode
  rw [held]
  split_ifs
  · exact ⟨_, rfl⟩
  · split <;> exact ⟨_, rfl⟩

theorem switches {σ : Type} (coherent : controller.Coherent) (link : Link σ) (enabled : Bool)
    (state : σ) :
    Switches controller enabled
      (((controller.setGradingMode enabled).trace link state).filterMap
        (controller.sync.fetched? controller.key))
      ((controller.setGradingMode enabled).run link state).1.1
      ((controller.setGradingMode enabled).run link state).1.2 := by
  unfold setGradingMode
  by_cases closed : controller.disposed
  · rw [if_pos closed]
    exact .refused fun _ => closed
  rw [if_neg closed]
  have opened := Bool.eq_false_iff.2 closed
  cases enabled with
  | false =>
      cases mode : controller.mode with
      | viewing => exact .stays nofun fun _ => mode
      | grading => exact .leaves rfl opened mode
  | true =>
      cases mode : controller.mode with
      | grading => exact .stays (fun _ => mode) nofun
      | viewing =>
          cases held : controller.ledger with
          | some ledger =>
              rcases exists_enterWith coherent opened mode ledger
                with ⟨host, bindings, entered, bound, attaches⟩
              rw [ensureAll_of_ensured (coherent.ensured ledger held)] at entered attaches
              rw [← held] at entered
              simp only [Dialogue.run, Dialogue.trace, List.filterMap_nil, entered]
              exact .returns held bound attaches rfl
          | none =>
              have fetched := Sync.trace_load link controller.sync controller.key state
              simp only [Dialogue.trace_bind, Dialogue.run_bind, List.filterMap_append, fetched]
              cases loaded : ((controller.sync.load controller.key).run link state).1 with
              | error error =>
                  simp only [Except.toOption, Option.toList_none, Dialogue.trace_pure,
                    Dialogue.run_pure, List.filterMap_nil, List.append_nil]
                  exact .refused nofun
              | ok ledger =>
                  rcases exists_enterWith coherent opened mode ledger
                    with ⟨host, bindings, entered, bound, attaches⟩
                  simp only [entered, Except.toOption, Option.toList_some, Dialogue.trace_pure,
                    Dialogue.run_pure, List.filterMap_nil, List.append_nil]
                  exact .begins held rfl (Sync.reachable_of_load link loaded) bound attaches

/-! ## Editing -/

/-- Why an edit in a widget is refused. -/
inductive RefusesEdit (controller : Controller) (widget : Nat) (edit : Edit) :
    ControllerError → Prop
  | disposed (closed : controller.disposed = true) : RefusesEdit controller widget edit .disposed
  | notGrading (viewed : controller.mode ≠ .grading) :
    RefusesEdit controller widget edit .notGrading
  | saveInFlight (saving : controller.saving = true) :
    RefusesEdit controller widget edit .saveInFlight
  | unknownWidget (unknown : controller.bindings.lookup widget = none) :
    RefusesEdit controller widget edit (.unknownWidget widget)
  | noScoreField {binding : Binding} (found : controller.bindings.lookup widget = some binding)
    (score : edit.isScore = true) (scoreless : binding.hasScoreFields = false) :
    RefusesEdit controller widget edit (.noScoreField widget)
  /-- The value is not one that the cell takes. -/
  | score {binding : Binding} {error : ScoreError}
    (found : controller.bindings.lookup widget = some binding)
    (refused : (edit.setting binding.tool).check = .error error) :
    RefusesEdit controller widget edit (.ledger (.score error))

/-- What an edit in a widget can do. -/
inductive Edits (controller : Controller) (widget : Nat) (edit : Edit) :
    Except ControllerError Ledger.Record → Controller → Prop
  | refused {error : ControllerError} (reason : RefusesEdit controller widget edit error) :
    Edits controller widget edit (.error error) controller
  /-- The setter was applied to the cell that the widget is bound to. -/
  | accepted {binding : Binding} {ledger next : Ledger} {record : Ledger.Record}
    (idle : controller.saving = false) (found : controller.bindings.lookup widget = some binding)
    (held : controller.ledger = some ledger)
    (changed : (edit.setting binding.tool).apply ledger controller.notebookName binding.cellId =
      .ok next)
    (about : record.cellId = binding.cellId)
    (opened : controller.disposed = false) (graded : controller.mode = .grading)
    (taken : next.record controller.notebookName binding.cellId = .ok record) :
    Edits controller widget edit (.ok record)
      { controller with
        ledger := some next
        bindings := refresh widget record controller.bindings }

theorem bound_of_lookup (coherent : controller.Coherent) {widget : Nat} {binding : Binding}
    (found : controller.bindings.lookup widget = some binding) :
    Bound controller.notebookName (gradable controller.notebook) binding := by
  obtain ⟨before, after, split, _⟩ := List.lookup_eq_some_iff.1 found
  have listed : (widget, binding) ∈ controller.bindings := by
    rw [split]
    exact List.mem_append_right before List.mem_cons_self
  exact coherent.bound _ listed

theorem applyEdit_eq (ledger : Ledger) (binding : Binding) (edit : Edit) :
    applyEdit ledger binding edit =
      (edit.setting binding.tool).apply ledger binding.notebook binding.cellId := by
  cases edit <;> rfl

theorem edits (coherent : controller.Coherent) (widget : Nat) (edit : Edit) :
    Edits controller widget edit (controller.edit widget edit).1
      (controller.edit widget edit).2 := by
  unfold Controller.edit
  split_ifs with closed viewing saving
  · exact .refused (.disposed closed)
  · exact .refused (.notGrading viewing)
  · exact .refused (.saveInFlight saving)
  have graded : controller.mode = .grading := Decidable.not_not.1 viewing
  cases found : controller.bindings.lookup widget with
  | none => exact .refused (.unknownWidget found)
  | some binding =>
      rcases bound_of_lookup coherent found with ⟨named, cell, listed, same⟩
      simp only
      split_ifs with scoreless
      · simp only [Bool.and_eq_true, Bool.not_eq_true'] at scoreless
        exact .refused (.noScoreField found scoreless.1 scoreless.2)
      cases held : controller.ledger with
      | none =>
          have present := coherent.graded graded
          rw [held] at present
          cases present
      | some ledger =>
          simp only [applyEdit_eq, named]
          have ensured := coherent.ensured ledger held cell listed
          rw [← same] at ensured
          cases checked : (edit.setting binding.tool).check with
          | error error =>
              rw [Ledger.Setting.apply_of_check_error checked]
              exact .refused (.score found checked)
          | ok _ =>
              rcases Ledger.Setting.exists_apply ensured checked with ⟨next, changed⟩
              rcases Ledger.record_of_ensured (Ledger.Setting.ensured_of_apply changed ensured)
                with ⟨record, taken, about⟩
              simp only [changed, taken]
              exact .accepted (Bool.eq_false_iff.2 saving) found held changed about
                (Bool.eq_false_iff.2 closed) graded taken

/-! ## Saving -/

/-- What beginning a save can do. -/
inductive Begins (controller : Controller) : Except ControllerError SaveRequest → Controller → Prop
  | refused {error : ControllerError} : Begins controller (.error error) controller
  /-- The request owns a snapshot of the ledger. -/
  | begins {ledger : Ledger} (opened : controller.disposed = false)
    (idle : controller.saving = false) (held : controller.ledger = some ledger) :
    Begins controller (.ok ⟨controller.sync, controller.key, ledger⟩)
      ({ controller with saving := true }.enableAll false)

theorem begins (controller : Controller) :
    Begins controller controller.beginSave.1 controller.beginSave.2 := by
  unfold beginSave
  split_ifs with closed saving
  · exact .refused
  · exact .refused
  · split
    · exact .refused
    · next held => exact .begins (Bool.eq_false_iff.2 closed) (Bool.eq_false_iff.2 saving) held

/-! ## Coherence is kept -/

/-- A notebook that is graded stays coherent with another ledger in which all gradable
cells are ensured, and with other widgets. -/
theorem coherent_of_ledger {host : Host} {ledger : Ledger} {bindings : List (Nat × Binding)}
    {mode : Mode} (opened : controller.disposed = false) (graded : mode = .grading)
    (reachable : ledger.Reachable)
    (ensured : ∀ cell ∈ gradable controller.notebook,
      ledger.Ensured controller.notebookName cell.cellId)
    (bound : ∀ entry ∈ bindings,
      Bound controller.notebookName (gradable controller.notebook) entry.2) :
    Coherent { controller with host, ledger := some ledger, bindings, mode } where
  reachable := by
    rintro _ ⟨rfl⟩
    exact reachable
  ensured := by
    rintro _ ⟨rfl⟩
    exact ensured
  graded _ := rfl
  bound := bound
  opened _ := opened
  viewed impossible := by
    subst graded
    cases impossible

theorem coherent_unbindAll (coherent : controller.Coherent) {disposed : Bool} :
    Coherent { controller.unbindAll with mode := .viewing, disposed } where
  reachable := coherent.reachable
  ensured := coherent.ensured
  graded impossible := by cases impossible
  bound entry impossible := absurd impossible List.not_mem_nil
  opened impossible := by cases impossible
  viewed _ := rfl

theorem coherent_of_switches (coherent : controller.Coherent) {enabled : Bool}
    {fetched : List Ledger} {outcome : Except ControllerError Unit} {next : Controller}
    (switched : Switches controller enabled fetched outcome next) : next.Coherent := by
  cases switched with
  | refused => exact coherent
  | stays present => exact coherent
  | leaves off => exact coherent_unbindAll coherent
  | returns held bound attaches =>
      exact ⟨coherent.reachable, coherent.ensured, fun _ => Option.isSome_of_eq_some held, bound,
        fun _ => attaches.opened, nofun⟩
  | begins missing on reachable bound attaches =>
      exact coherent_of_ledger attaches.opened rfl (reachable_ensureAll reachable)
        (fun cell listed => ensured_ensureAll listed) bound

theorem bound_refresh {notebookName : String} {cells : List Gradable} {widget : Nat}
    {record : Ledger.Record} {bindings : List (Nat × Binding)}
    (bound : ∀ entry ∈ bindings, Bound notebookName cells entry.2)
    (about : ∃ cell ∈ cells, record.cellId = cell.cellId) :
    ∀ entry ∈ refresh widget record bindings, Bound notebookName cells entry.2 := by
  induction bindings with
  | nil => exact bound
  | cons first rest inductionHypothesis =>
      have boundRest := fun entry later => bound entry (List.mem_cons_of_mem first later)
      intro entry listed
      simp only [refresh] at listed
      split_ifs at listed
      · rcases List.mem_cons.1 listed with rfl | later
        · exact ⟨(bound first List.mem_cons_self).1, about⟩
        · exact boundRest entry later
      · rcases List.mem_cons.1 listed with rfl | later
        · exact bound _ List.mem_cons_self
        · exact inductionHypothesis boundRest entry later

theorem coherent_of_edits (coherent : controller.Coherent) {widget : Nat} {edit : Edit}
    {outcome : Except ControllerError Ledger.Record} {next : Controller}
    (edited : Edits controller widget edit outcome next) : next.Coherent := by
  cases edited with
  | refused => exact coherent
  | accepted idle found held changed about opened graded =>
      obtain ⟨_, cell, listed, same⟩ := bound_of_lookup coherent found
      refine coherent_of_ledger opened graded (.set (coherent.reachable _ held) changed) ?_ ?_
      · intro cell listed
        exact Ledger.Setting.ensured_of_apply changed (coherent.ensured _ held cell listed)
      · exact bound_refresh coherent.bound ⟨cell, listed, about.trans same⟩

theorem coherent_of_begins (coherent : controller.Coherent)
    {outcome : Except ControllerError SaveRequest} {next : Controller}
    (begun : Begins controller outcome next) : next.Coherent := by
  cases begun with
  | refused => exact coherent
  | begins opened idle held =>
      exact ⟨coherent.reachable, coherent.ensured, coherent.graded, coherent.bound,
        coherent.opened, coherent.viewed⟩

theorem coherent_completeSave (coherent : controller.Coherent) (result : Except SyncError Unit) :
    (controller.completeSave result).2.Coherent := by
  unfold completeSave
  split_ifs
  · exact coherent
  · exact ⟨coherent.reachable, coherent.ensured, coherent.graded, coherent.bound,
      coherent.opened, coherent.viewed⟩

theorem coherent_dispose (coherent : controller.Coherent) : controller.dispose.Coherent := by
  unfold dispose
  split_ifs
  · exact coherent
  · exact coherent_unbindAll coherent

end Controller

end Gradebook
