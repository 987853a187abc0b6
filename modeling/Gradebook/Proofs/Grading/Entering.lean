import Gradebook.Proofs.Grading.View
import Gradebook.Proofs.Ledger.Addition

namespace Gradebook

/-!
# Entering grading mode

Which cells get a widget is decided by the notebook alone, and which entries are added by
these cells and the ledger.  The cells are gone through once, and each one's record is taken
while the cells after it have still to be prepared.  That the widgets show the records of the
final ledger nevertheless, also when several cells have one id, is because a new entry leaves
all records alone.

Entering a second time starts from a ledger that has all the entries.  So leaving and
entering again, however often, gives the same bindings and the same ledger.
-/

/-! ## Cells that are graded -/

theorem CellRole.isGradable_iff {role : CellRole} :
    role.isGradable = true ↔ role ≠ .unclassified ∧ role ≠ .readonly := by
  cases role <;> decide

/-- Whether a cell is graded: it has an identity and a role in which it is graded. -/
def Cell.Graded (cell : Cell) : Prop :=
  cell.tool.id ≠ none ∧ cell.tool.role ≠ .unclassified ∧ cell.tool.role ≠ .readonly

instance : DecidablePred Cell.Graded := fun cell =>
  inferInstanceAs (Decidable (cell.tool.id ≠ none ∧ cell.tool.role ≠ .unclassified ∧
    cell.tool.role ≠ .readonly))

/-- The cells of a notebook that are graded, in document order and with their positions. -/
def Notebook.gradedCells (notebook : Notebook) : List (Cell × Nat) :=
  notebook.cells.zipIdx.filter fun placed => placed.1.Graded

theorem Notebook.mem_gradedCells {notebook : Notebook} {placed : Cell × Nat} :
    placed ∈ notebook.gradedCells ↔
      notebook.cells[placed.2]? = some placed.1 ∧ placed.1.Graded := by
  rw [gradedCells, List.mem_filter, List.mem_zipIdx_iff_getElem?, decide_eq_true_eq]

namespace Controller

/-- Whether a cell that gets a widget is the one at a position. -/
structure Gradable.Stands (placed : Cell × Nat) (cell : Gradable) : Prop where
  cellIndex : cell.cellIndex = placed.2
  tool : cell.tool = placed.1.tool
  identity : placed.1.tool.id = some cell.cellId

/-- The cells that get a widget are those that are graded. -/
theorem stands_gradableFrom (cells : List Cell) (start : Nat) :
    List.Forall₂ Gradable.Stands ((cells.zipIdx start).filter fun placed => placed.1.Graded)
      (gradableFrom start cells) := by
  induction cells generalizing start with
  | nil => exact .nil
  | cons cell rest inductionHypothesis =>
      have later := inductionHypothesis (start + 1)
      simp only [List.zipIdx_cons, List.filter_cons, decide_eq_true_eq, gradableFrom]
      cases identified : cell.tool.id with
      | none =>
          rw [if_neg fun graded => graded.1 identified]
          exact later
      | some cellId =>
          have graded_iff : cell.Graded ↔ cell.tool.role.isGradable = true := by
            rw [Cell.Graded, identified, CellRole.isGradable_iff]
            exact and_iff_right (Option.some_ne_none cellId)
          simp only [graded_iff]
          split_ifs
          · exact .cons ⟨rfl, rfl, identified⟩ later
          · exact later

/-- Whether a binding is the one of the cell at a position, with its record in a ledger. -/
structure Shows (notebookName : String) (ledger : Ledger) (placed : Cell × Nat)
    (binding : Binding) : Prop where
  notebook : binding.notebook = notebookName
  cellIndex : binding.cellIndex = placed.2
  tool : binding.tool = placed.1.tool
  identity : placed.1.tool.id = some binding.cellId
  record : ledger.record notebookName binding.cellId = .ok binding.record

variable {notebookName : String} {ledger before after : Ledger} {cells : List Gradable}
  {bindings : List Binding}

theorem shows_of_binds {placed : List (Cell × Nat)}
    (stands : List.Forall₂ Gradable.Stands placed cells)
    (binds : List.Forall₂ (Binds notebookName ledger) cells bindings) :
    List.Forall₂ (Shows notebookName ledger) placed bindings := by
  induction stands generalizing bindings with
  | nil =>
      cases binds
      exact .nil
  | cons stands _ inductionHypothesis =>
      cases binds with
      | cons binds others =>
          refine .cons ?_ (inductionHypothesis others)
          refine ⟨binds.notebook, binds.cellIndex.trans stands.cellIndex,
            binds.tool.trans stands.tool, ?_, ?_⟩
          · rw [binds.cellId]
            exact stands.identity
          · rw [binds.cellId]
            exact binds.record

/-! ## What is added to the ledger -/

/-- Whether a ledger is another one with the entries of cells made sure of, in order. -/
structure Prepares (notebookName : String) (bindings : List Binding) (before after : Ledger) :
    Prop where
  ensures : after = bindings.foldl (fun ledger binding =>
    (ledger.ensureEntry notebookName binding.cellId binding.tool).2) before
  /-- All that is new in the payload are entries of these cells. -/
  adds : ∃ added, Json.Adds added before.toJson after.toJson ∧
    ∀ leaf ∈ added, ∃ binding ∈ bindings,
      leaf ∈ Ledger.newLeaves notebookName binding.cellId binding.tool
  /-- What other cells have, and what they lack, stays. -/
  others : ∀ notebook cell,
    (notebook = notebookName → ∀ binding ∈ bindings, cell ≠ binding.cellId) →
      after.toJson.at? [notebook, "grades_dict", cell] =
          before.toJson.at? [notebook, "grades_dict", cell] ∧
        after.toJson.at? [notebook, "comments_dict", cell] =
          before.toJson.at? [notebook, "comments_dict", cell]

theorem prepares_nil (notebookName : String) (ledger : Ledger) :
    Prepares notebookName [] ledger ledger where
  ensures := rfl
  adds := ⟨[], .nil _, nofun⟩
  others _ _ _ := ⟨rfl, rfl⟩

theorem Prepares.cons {binding : Binding}
    (prepares : Prepares notebookName bindings
      (before.ensureEntry notebookName binding.cellId binding.tool).2 after) :
    Prepares notebookName (binding :: bindings) before after where
  ensures := prepares.ensures
  adds := by
    rcases prepares.adds with ⟨added, adds, later⟩
    refine ⟨_, (Ledger.adds_ensureEntry before notebookName binding.cellId binding.tool).append
      adds, fun leaf listed => ?_⟩
    rcases List.mem_append.1 listed with here | there
    · exact ⟨binding, List.mem_cons_self, List.mem_of_mem_filter here⟩
    · rcases later leaf there with ⟨other, among, new⟩
      exact ⟨other, List.mem_cons_of_mem binding among, new⟩
  others notebook cell elsewhere := by
    have here := before.at?_ensureEntry_of_ne
      (fun same => elsewhere same binding List.mem_cons_self) binding.tool
    have later := prepares.others notebook cell fun same other among =>
      elsewhere same other (List.mem_cons_of_mem binding among)
    exact ⟨later.1.trans here.1, later.2.trans here.2⟩

theorem prepares_ensureAll (before : Ledger)
    (binds : List.Forall₂ (Binds notebookName ledger) cells bindings) :
    Prepares notebookName bindings before (ensureAll notebookName before cells) := by
  induction binds generalizing before with
  | nil => exact prepares_nil notebookName before
  | @cons cell binding _ _ binds _ inductionHypothesis =>
      apply Prepares.cons
      -- the binding makes sure of the entries that its cell does
      rw [binds.cellId, binds.tool]
      exact inductionHypothesis _

/-! ## Entering -/

variable {σ : Type} {controller : Controller} {link : Link σ} {state : σ}

/-- Where a controller has a ledger from when it enters grading mode: it holds one, or it
loads one. -/
def Supplies (controller : Controller) (link : Link σ) (state : σ) (ledger : Ledger) : Prop :=
  controller.ledger = some ledger ∨
    controller.ledger = none ∧ ((controller.sync.load controller.key).run link state).1 = .ok ledger

theorem setGradingMode_of_supplies (opened : controller.disposed = false)
    (viewed : controller.mode = .viewing) (supplies : controller.Supplies link state ledger) :
    ((controller.setGradingMode true).run link state).1 = controller.enterWith ledger := by
  unfold setGradingMode
  rw [opened, viewed]
  rcases supplies with held | ⟨missing, loaded⟩
  · rw [held]
    rfl
  · rw [missing]
    simp only [Bool.false_eq_true, if_false, Dialogue.run_bind, loaded, Dialogue.run_pure]

/-- Grading mode is entered just where the view is open and there is a ledger. -/
theorem enters_iff (coherent : controller.Coherent) (viewed : controller.mode = .viewing) :
    ((controller.setGradingMode true).run link state).1.1 = .ok () ↔
      controller.disposed = false ∧ ∃ ledger, controller.Supplies link state ledger := by
  constructor
  · intro entered
    cases closed : controller.disposed with
    | true =>
        simp only [setGradingMode, closed, if_true, Dialogue.run] at entered
        cases entered
    | false =>
        refine ⟨rfl, ?_⟩
        cases held : controller.ledger with
        | some ledger => exact ⟨ledger, .inl held⟩
        | none =>
            cases loaded : ((controller.sync.load controller.key).run link state).1 with
            | ok ledger => exact ⟨ledger, .inr ⟨held, loaded⟩⟩
            | error error =>
                simp only [setGradingMode, closed, viewed, held, Bool.false_eq_true, if_false,
                  Dialogue.run_bind, loaded, Dialogue.run_pure] at entered
                cases entered
  · rintro ⟨opened, ledger, supplies⟩
    rcases exists_enterWith coherent opened viewed ledger with ⟨_, _, entered, _⟩
    rw [setGradingMode_of_supplies opened viewed supplies, entered]

/-! ## Leaving and entering again -/

/-- An open view whose ledger has the entries of all cells that are graded, and whose widgets
show the same bindings whenever there are any. -/
structure Settled (controller : Controller) (ledger : Ledger) (bindings : List Binding) :
    Prop where
  coherent : controller.Coherent
  opened : controller.disposed = false
  held : controller.ledger = some ledger
  binds : List.Forall₂ (Binds controller.notebookName ledger) (gradable controller.notebook)
    bindings
  shown : controller.mode = .grading → controller.bindings.map Prod.snd = bindings

theorem Binds.unique : Relator.RightUnique (Binds notebookName ledger) := by
  rintro cell ⟨notebook, index, tool, record⟩ ⟨_, _, _, other⟩ ⟨rfl, rfl, rfl, taken⟩
    ⟨rfl, rfl, rfl, again⟩
  cases taken.symm.trans again
  rfl

/-- Whoever enters with a ledger settles with what it becomes. -/
theorem exists_settled (coherent : controller.Coherent) (opened : controller.disposed = false)
    (viewed : controller.mode = .viewing) (reachable : ledger.Reachable) :
    ∃ next bindings, controller.enterWith ledger = (.ok (), next) ∧ next.mode = .grading ∧
      next.notebookName = controller.notebookName ∧ next.notebook = controller.notebook ∧
      next.Settled (ensureAll controller.notebookName ledger (gradable controller.notebook))
        bindings := by
  rcases exists_enterWith coherent opened viewed ledger with ⟨_, bindings, entered, bound, attaches⟩
  have binds := binds_of_attaches coherent attaches
  refine ⟨_, bindings.map Prod.snd, entered, rfl, rfl, rfl, ?_, opened, rfl, binds,
    fun _ => rfl⟩
  exact coherent_of_ledger opened rfl (reachable_ensureAll reachable)
    (fun cell listed => ensured_ensureAll listed) bound

/-- Switching succeeds, asks nothing, and changes neither the ledger nor what widgets show. -/
theorem Settled.switch (settled : controller.Settled ledger bindings) (link : Link σ)
    (enabled : Bool) (state : σ) :
    ∃ next, (controller.setGradingMode enabled).run link state = ((.ok (), next), state) ∧
      next.mode = (if enabled then .grading else .viewing) ∧ next.Settled ledger bindings := by
  have coherent := settled.coherent
  unfold setGradingMode
  rw [settled.opened, settled.held]
  cases enabled with
  | false =>
      cases mode : controller.mode with
      | viewing => exact ⟨controller, rfl, mode, settled⟩
      | grading =>
          exact ⟨_, rfl, rfl, coherent_unbindAll coherent, settled.opened, settled.held,
            settled.binds, nofun⟩
  | true =>
      cases mode : controller.mode with
      | grading => exact ⟨controller, rfl, mode, settled⟩
      | viewing =>
          rcases exists_settled coherent settled.opened mode (coherent.reachable _ settled.held)
            with ⟨next, others, entered, graded, sameName, sameNotebook, again⟩
          -- all cells have their entries already, so the ledger is the same
          rw [ensureAll_of_ensured (coherent.ensured _ settled.held)] at again
          have binds := again.binds
          rw [sameName, sameNotebook] at binds
          have same := List.right_unique_forall₂' Binds.unique binds settled.binds
          exact ⟨next, congrArg (·, state) entered, graded, same ▸ again⟩

/-- No number of switches changes anything. -/
theorem Settled.steps {run : Run σ} (settled : run.controller.Settled ledger bindings)
    (link : Link σ) (switches : List Bool) :
    (run.steps link (switches.map .setGradingMode)).controller.Settled ledger bindings := by
  induction switches generalizing run with
  | nil => exact settled
  | cons enabled rest inductionHypothesis =>
      rcases settled.switch link enabled run.state with ⟨next, switched, _, again⟩
      apply @inductionHypothesis (run.step link (.setGradingMode enabled))
      change ((run.controller.setGradingMode enabled).run link run.state).1.2.Settled _ _
      rw [switched]
      exact again

/-! ## Runs -/

theorem Supplies.reachable (coherent : controller.Coherent)
    (supplies : controller.Supplies link state ledger) : ledger.Reachable := by
  rcases supplies with held | ⟨_, loaded⟩
  · exact coherent.reachable ledger held
  · exact Sync.reachable_of_load link loaded

/-- Grading mode can be entered in an open view that has a ledger or can load one.  It then
has one binding for each cell of the notebook that is graded, in document order, with the
tool of this cell and its record in the final ledger.  This is the ledger from before with
the entries of these cells made sure of, and no other cell got any.  Switching back and forth
after that always succeeds, and gives these bindings and this ledger again. -/
theorem entering_binds_graded (sync : Sync) (key : SubmissionKey) (notebookName : String)
    (notebook : Notebook) (host : Host) (link : Link σ) (state : σ)
    (operations : List Operation) :
    let run := (Run.start (new sync key notebookName notebook host) state).steps link operations
    let entered := run.step link (.setGradingMode true)
    let succeeds := ((run.controller.setGradingMode true).run link run.state).1.1 = .ok ()
    run.controller.mode = .viewing →
      (succeeds ↔ run.controller.disposed = false ∧
        ∃ before, run.controller.Supplies link run.state before) ∧
      (succeeds → ∃ before after bindings,
        run.controller.Supplies link run.state before ∧
          entered.controller.mode = .grading ∧ entered.controller.ledger = some after ∧
          entered.controller.bindings.map Prod.snd = bindings ∧
          List.Forall₂ (Shows notebookName after) notebook.gradedCells bindings ∧
          Prepares notebookName bindings before after ∧
          ∀ switches : List Bool,
            let later := entered.steps link (switches.map .setGradingMode)
            later.controller.ledger = some after ∧
              (later.controller.mode = .grading →
                later.controller.bindings.map Prod.snd = bindings) ∧
              ∀ enabled, ∃ next,
                (later.controller.setGradingMode enabled).run link later.state =
                    ((.ok (), next), later.state) ∧
                  next.mode = if enabled then .grading else .viewing) := by
  intro run entered succeeds viewed
  rcases explains_run sync key notebookName notebook host link state operations
    with ⟨purpose, coherent, _⟩
  change run.controller.purpose = _ at purpose
  change run.controller.Coherent at coherent
  have named : run.controller.notebookName = notebookName := congrArg (·.2.2.1) purpose
  have graded : run.controller.notebook = notebook := congrArg (·.2.2.2) purpose
  refine ⟨enters_iff coherent viewed, fun success => ?_⟩
  rcases (enters_iff coherent viewed).1 success with ⟨opened, before, supplies⟩
  rcases exists_settled coherent opened viewed (supplies.reachable coherent)
    with ⟨next, bindings, entering, grading, sameName, sameNotebook, settled⟩
  have become : entered.controller = next := by
    change ((run.controller.setGradingMode true).run link run.state).1.2 = next
    rw [setGradingMode_of_supplies opened viewed supplies, entering]
  subst become
  rw [named, graded] at settled
  have binds := settled.binds
  rw [sameName, sameNotebook, named, graded] at binds
  refine ⟨before, ensureAll notebookName before (gradable notebook), bindings, supplies, grading,
    settled.held, settled.shown grading, ?_, prepares_ensureAll before binds, fun switches => ?_⟩
  · exact shows_of_binds (stands_gradableFrom notebook.cells 0) binds
  · have later := settled.steps link switches
    refine ⟨later.held, later.shown, fun enabled => ?_⟩
    rcases later.switch link enabled _ with ⟨next, switched, mode, _⟩
    exact ⟨next, switched, mode⟩

/-- A heading and two answers with one id: each answer gets a binding, and the ledger does
not change again. -/
theorem entering_binds_graded_of_twins :
    let link : Link Unit := fun _ state => (some (.plain 200 "\x7b\x7d"), state)
    let data : Json := .object
      [("nbgrader", .object [("grade", .bool true), ("grade_id", .string "c")])]
    let heading : Cell := ⟨none, .markdown, .null, .text ""⟩
    let answer : Cell := ⟨none, .markdown, data, .text ""⟩
    let sync : Sync := ⟨⟨"", none⟩, ⟨"t", [(1, .tutor)]⟩⟩
    let run := Run.start
      (new sync ⟨1, 2, 3⟩ "h" ⟨[heading, answer, answer], .null⟩ (.ofIssue id)) ()
    let entered := run.step link (.setGradingMode true)
    run.controller.mode = .viewing ∧
      ((run.controller.setGradingMode true).run link run.state).1.1 = .ok () ∧
      entered.controller.bindings.map (·.2.cellIndex) = [1, 2] ∧
      ∃ after, ∀ switches : List Bool,
        (entered.steps link (switches.map .setGradingMode)).controller.ledger = some after := by
  intro link data heading answer sync run entered
  have positions : entered.controller.bindings.map (·.2.cellIndex) = [1, 2] := by decide +kernel
  have success : ((run.controller.setGradingMode true).run link run.state).1.1 = .ok () := by
    rw [← Outcome.exists_eq_ok_iff]
    apply Outcome.exists_of_isOk
    decide +kernel
  have law := entering_binds_graded sync ⟨1, 2, 3⟩ "h" ⟨[heading, answer, answer], .null⟩
    (.ofIssue id) link () []
  rcases (law rfl).2 success with ⟨_, after, _, _, _, _, _, _, _, again⟩
  exact ⟨rfl, success, positions, after, fun switches => (again switches).1⟩

end Controller

end Gradebook
