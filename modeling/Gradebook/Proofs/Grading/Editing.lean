import Gradebook.Proofs.Grading.Entering
import Gradebook.Proofs.Notebook.Classification

namespace Gradebook

/-!
# Edits that are accepted

An edit is accepted or refused for what the controller is doing and for what the cell of the
widget can take, and this can be said of the cell as it stands in the notebook: a widget that
was attached is bound to the cell at its position for as long as it is there
(`Controller.Placed`).  A cell that takes scores has a budget that is a finite number, because
it was classified.

An edit that is accepted has its effect in three places, which agree: in the payload of the
ledger one leaf is written; in the record that is given back one field is; and the binding of
the widget has this record, while the other bindings and all else stay as they are.
-/

/-! ## Edits of a cell -/

namespace Edit

/-- Whether a cell takes the value of an edit.  A score belongs between zero and the budget. -/
def Fits (tool : Tool) : Edit → Prop
  | .manualScore score =>
    tool.role ∈ [CellRole.manual, .task, .tests] ∧ score.isFinite = true ∧ 0 ≤ score ∧
      ∃ points, tool.points = some points ∧ score ≤ points
  | .extraCredit amount =>
    tool.role ∈ [CellRole.manual, .task, .tests] ∧ amount.isFinite = true ∧ 0 ≤ amount
  | .comment _ | .needsManualGrade _ => True

/-- The place in a payload that an edit names, with the value that belongs there. -/
def leaf (notebook cell : String) : Edit → Json.Leaf
  | .manualScore score => Ledger.scoreLeaf notebook cell score
  | .extraCredit amount => Ledger.extraCreditLeaf notebook cell amount
  | .comment text => Ledger.commentLeaf notebook cell text
  | .needsManualGrade flag => Ledger.flagLeaf notebook cell flag

/-- A record with the value of an edit in its field. -/
def write (record : Ledger.Record) : Edit → Ledger.Record
  | .manualScore score => { record with manualScore := some score }
  | .extraCredit amount => { record with extraCredit := amount }
  | .comment text => { record with comment := text }
  | .needsManualGrade flag => { record with needsManualGrade := flag }

variable {ledger next : Ledger} {notebook cell : String} {change : Edit} {tool : Tool}

theorem write_setting (change : Edit) (tool : Tool) (record : Ledger.Record) :
    (change.setting tool).write record = change.write record := by
  cases change <;> rfl

/-- The setter of an edit writes the leaf that the edit names. -/
theorem edits_of_apply (changed : (change.setting tool).apply ledger notebook cell = .ok next) :
    Json.Edits [change.leaf notebook cell] ledger.toJson next.toJson := by
  apply Json.Puts.edits _ (List.pairwise_singleton _ _)
  cases change with
  | manualScore score =>
      have set := (Ledger.setManualScoreChecked_eq_ok_iff.1 changed).2
      exact (Ledger.puts_setManualScore set).2
  | extraCredit amount =>
      have set := (Ledger.setExtraCreditChecked_eq_ok_iff.1 changed).2
      exact (Ledger.puts_setExtraCredit set).2
  | comment text => exact Ledger.puts_setComment changed
  | needsManualGrade flag =>
      exact Ledger.puts_modifyGrade changed fun entry => entry.put_needsManualGrade flag

end Edit

/-! ## Cells that take scores -/

theorem CellRole.hasPoints_iff {role : CellRole} :
    role.hasPoints = true ↔ role ∈ [CellRole.manual, .task, .tests] := by
  cases role <;> decide

/-- Whether a tool has a budget that is a finite number if its role has points. -/
def Tool.Budgeted (tool : Tool) : Prop :=
  tool.role.hasPoints = true → ∃ points, tool.points = some points ∧ points.isFinite = true

/-- A cell that was classified has a budget if its role has points. -/
theorem Cell.budgeted_tool (cell : Cell) : cell.tool.Budgeted := by
  unfold tool
  cases cell.grading? with
  | none => exact nofun
  | some data =>
      have made := data.classifies cell.content
      change (data.classify cell.content).Budgeted
      generalize data.classify cell.content = tool at made
      cases made with
      | apart => exact nofun
      | graded => exact fun points => ⟨data.budget, if_pos points, data.isFinite_budget⟩

/-- An edit fits just where the cell has its field and the value passes. -/
theorem Edit.fits_iff {change : Edit} {tool : Tool} (budgeted : tool.Budgeted) :
    change.Fits tool ↔ (change.isScore = true → tool.role.hasPoints = true) ∧
      (change.setting tool).check = .ok () := by
  cases change with
  | manualScore score =>
      change _ ↔ (true = true → tool.role.hasPoints = true) ∧
        Score.check score (tool.points.getD 0) = .ok ()
      rw [Fits, ← CellRole.hasPoints_iff, imp_iff_right rfl]
      refine and_congr_right fun points => ?_
      rcases budgeted points with ⟨budget, given, finite⟩
      have number := (Decimal.isNaN_and_isInf_of_isFinite finite).1
      simp only [given, Option.getD_some, Score.check_eq_ok_iff_le number, Option.some.injEq,
        exists_eq_left']
  | extraCredit amount =>
      change _ ↔ (true = true → tool.role.hasPoints = true) ∧ Score.checkExtra amount = .ok ()
      rw [Fits, ← CellRole.hasPoints_iff, imp_iff_right rfl, Score.checkExtra_eq_ok_iff_le]
  | comment text | needsManualGrade flag =>
      refine iff_of_true trivial ⟨fun score => ?_, rfl⟩
      cases score

namespace Controller

variable {σ : Type} {controller : Controller} {notebook : Notebook}

/-! ## Bindings of cells -/

/-- Whether a binding is the one of the cell at its position. -/
def Placed (notebook : Notebook) (binding : Binding) : Prop :=
  ∃ cell, notebook.cells[binding.cellIndex]? = some cell ∧ binding.tool = cell.tool ∧
    cell.tool.id = some binding.cellId

/-- Whether all bindings are those of the cells at their positions. -/
def AllPlaced (controller : Controller) : Prop :=
  ∀ entry ∈ controller.bindings, Placed controller.notebook entry.2

theorem allPlaced_of_nil (nothing : controller.bindings = []) : controller.AllPlaced := by
  intro entry listed
  rw [nothing] at listed
  cases listed

theorem placed_of_attaches (coherent : controller.Coherent) {ledger : Ledger} {host : Host}
    {bindings : List (Nat × Binding)} (attaches : controller.Attaches ledger host bindings) :
    ∀ entry ∈ bindings, Placed controller.notebook entry.2 := by
  intro entry listed
  have shows := shows_of_binds (stands_gradableFrom controller.notebook.cells 0)
    (binds_of_attaches coherent attaches)
  rcases Json.exists_of_forall₂ shows entry.2 (List.mem_map_of_mem listed) with ⟨placed, graded, shown⟩
  have stands := (Notebook.mem_gradedCells.1 graded).1
  rw [← shown.cellIndex] at stands
  exact ⟨placed.1, stands, shown.tool, shown.identity⟩

/-- A binding stays in its place when its record is taken again. -/
theorem allPlaced_of_edits (allPlaced : controller.AllPlaced) {widget : Nat} {change : Edit}
    {outcome : Except ControllerError Ledger.Record} {next : Controller}
    (edited : Edits controller widget change outcome next) : next.AllPlaced := by
  cases edited with
  | refused => exact allPlaced
  | @accepted binding ledger next record idle found held changed about =>
      intro entry listed
      rcases exists_split_of_lookup found record with ⟨before, after, split, refreshed⟩
      change entry ∈ refresh widget record controller.bindings at listed
      rw [refreshed] at listed
      by_cases here : entry = (widget, { binding with record })
      · subst here
        rcases allPlaced _ (mem_of_lookup found) with ⟨cell, stands, tool, identity⟩
        refine ⟨cell, stands, tool, ?_⟩
        -- the new record is about the same cell
        rw [identity]
        exact congrArg some about.symm
      · apply allPlaced entry
        rw [split]
        exact List.mem_append.2 ((List.mem_append.1 listed).imp_right fun later =>
          List.mem_cons_of_mem _ ((List.mem_cons.1 later).resolve_left here))

theorem allPlaced_of_switches (coherent : controller.Coherent) (allPlaced : controller.AllPlaced)
    {enabled : Bool} {fetched : List Ledger} {outcome : Except ControllerError Unit}
    {next : Controller} (switched : Switches controller enabled fetched outcome next) :
    next.AllPlaced := by
  cases switched with
  | refused | stays => exact allPlaced
  | leaves => exact allPlaced_of_nil rfl
  | returns _ _ attaches | begins _ _ _ _ attaches => exact placed_of_attaches coherent attaches

theorem allPlaced_perform (coherent : controller.Coherent) (allPlaced : controller.AllPlaced)
    (link : Link σ) (state : σ) (operation : Operation) :
    (operation.perform link controller state).controller.AllPlaced := by
  apply perform_induction coherent link state operation
  · exact allPlaced
  · exact allPlaced_of_switches coherent allPlaced
  · exact allPlaced_of_edits allPlaced
  · intro outcome next begun
    cases begun <;> exact allPlaced
  · exact allPlaced
  · exact allPlaced_of_nil rfl

theorem allPlaced_steps (link : Link σ) {run : Run σ} (coherent : run.controller.Coherent)
    (allPlaced : run.controller.AllPlaced) (operations : List Operation) :
    (run.steps link operations).controller.AllPlaced := by
  induction operations generalizing run with
  | nil => exact allPlaced
  | cons operation rest inductionHypothesis =>
      exact inductionHypothesis (coherent_perform coherent link run.state operation)
        (allPlaced_perform coherent allPlaced link run.state operation)

/-! ## One edit -/

/-- A score is accepted only where there are fields for scores. -/
theorem hasScoreFields_of_edit {widget : Nat} {change : Edit} {record : Ledger.Record}
    {next : Controller} {binding : Binding}
    (made : controller.edit widget change = (.ok record, next))
    (found : controller.bindings.lookup widget = some binding) (score : change.isScore = true) :
    binding.hasScoreFields = true := by
  cases scoreless : binding.hasScoreFields with
  | true => rfl
  | false =>
      simp only [edit, found, score, scoreless, Bool.not_false, Bool.and_self, if_true] at made
      split_ifs at made <;> cases made

/-- An edit is accepted just where the controller takes edits, the widget is bound to a cell,
and the cell takes the value. -/
theorem edit_eq_ok_iff {underWay : Bool} (agrees : controller.Agrees underWay)
    (allPlaced : controller.AllPlaced) (widget : Nat) (change : Edit) :
    (∃ record next, controller.edit widget change = (.ok record, next)) ↔
      controller.disposed = false ∧ controller.mode = .grading ∧ controller.saving = false ∧
        ∃ binding cell, (widget, binding) ∈ controller.bindings ∧
          controller.notebook.cells[binding.cellIndex]? = some cell ∧ change.Fits cell.tool := by
  constructor
  · rintro ⟨record, next, made⟩
    have edited := edits agrees.coherent widget change
    rw [made] at edited
    cases edited with
    | @accepted binding _ _ _ idle found held changed about opened graded taken =>
        rcases allPlaced _ (mem_of_lookup found) with ⟨cell, stands, tool, _⟩
        refine ⟨opened, graded, idle, binding, cell, mem_of_lookup found, stands, ?_⟩
        rw [← tool]
        refine (Edit.fits_iff (tool ▸ cell.budgeted_tool)).2
          ⟨hasScoreFields_of_edit made found, ?_⟩
        cases checked : (change.setting binding.tool).check with
        | ok _ => rfl
        | error error => cases changed.symm.trans (Ledger.Setting.apply_of_check_error checked)
  · rintro ⟨_, graded, idle, binding, cell, listed, stands, fits⟩
    rcases allPlaced _ listed with ⟨other, again, tool, _⟩
    cases stands.symm.trans again
    rw [← tool] at fits
    rcases (Edit.fits_iff (tool ▸ cell.budgeted_tool)).1 fits with ⟨fields, passes⟩
    -- a widget has one binding, so the one that is found is this one
    have here := lookup_of_mem agrees.nodup listed
    apply exists_edit_of_takes agrees.coherent graded idle (lookup_ne_none listed)
    intro other found
    cases here.symm.trans found
    exact ⟨fields, passes⟩

/-- What an accepted edit does to a controller: its binding, the ledgers before and after, and
the record that is given back. -/
structure Effect (controller : Controller) (widget : Nat) (change : Edit) (binding : Binding)
    (before after : Ledger) (record : Ledger.Record) (next : Controller) : Prop where
  placed : Placed controller.notebook binding
  held : controller.ledger = some before
  /-- Of the payload one leaf is written. -/
  leaf : Json.Edits [change.leaf controller.notebookName binding.cellId] before.toJson
    after.toJson
  taken : after.record controller.notebookName binding.cellId = .ok record
  /-- Of the record one field is written. -/
  written : ∃ earlier, before.record controller.notebookName binding.cellId = .ok earlier ∧
    record = change.write earlier
  /-- Beside the ledger only the record of one binding is new. -/
  next : ∃ earlier later, controller.bindings = earlier ++ (widget, binding) :: later ∧
    (∀ entry ∈ earlier ++ later, entry.1 ≠ widget) ∧
    next = { controller with
      ledger := some after
      bindings := earlier ++ (widget, { binding with record }) :: later }

theorem exists_effect {underWay : Bool} (agrees : controller.Agrees underWay)
    (allPlaced : controller.AllPlaced) {widget : Nat} {change : Edit} {record : Ledger.Record}
    {next : Controller} (made : controller.edit widget change = (.ok record, next)) :
    ∃ binding before after,
      Effect controller widget change binding before after record next := by
  have coherent := agrees.coherent
  have edited := edits coherent widget change
  rw [made] at edited
  cases edited with
  | @accepted binding before after _ idle found held changed about opened graded taken =>
      rcases bound_of_lookup coherent found with ⟨_, cell, listed, same⟩
      have ensured := coherent.ensured before held cell listed
      rw [← same] at ensured
      rcases Ledger.record_of_ensured ensured with ⟨earlier, known, _⟩
      have written := Ledger.Setting.record_of_apply changed known
      rw [Edit.write_setting] at written
      rcases exists_split_of_lookup found record with ⟨others, later, split, refreshed⟩
      refine ⟨binding, before, after, allPlaced _ (mem_of_lookup found), held,
        Edit.edits_of_apply changed, taken, ⟨earlier, known, ?_⟩, others, later, split, ?_, ?_⟩
      · exact Except.ok.inj (taken.symm.trans written)
      · have nodup := agrees.nodup
        rw [widgets, split] at nodup
        exact fun entry among => ne_of_split nodup among
      · rw [refreshed]

/-! ## Runs -/

theorem allPlaced_run (sync : Sync) (key : SubmissionKey) (notebookName : String)
    (notebook : Notebook) (host : Host) (link : Link σ) (state : σ)
    (operations : List Operation) :
    ((Run.start (new sync key notebookName notebook host) state).steps link
      operations).controller.AllPlaced := by
  have coherent := coherent_new sync key notebookName notebook host
  exact allPlaced_steps link coherent (allPlaced_of_nil rfl) operations

/-- In every run on a host that hands out every id once, an edit is accepted just where the
view is open, grading mode is on, no save is under way, the widget is bound, and the cell
takes the value.  An edit that is accepted writes the leaf that it names and no other, gives
back the record of the cell, in which its field has the value and the others are as before,
and keeps this record in the binding of the widget.  All else stays as it is. -/
theorem accepted_edit_has_effect (sync : Sync) (key : SubmissionKey) (notebookName : String)
    (notebook : Notebook) {issue : Nat → Nat} (fresh : Function.Injective issue)
    (link : Link σ) (state : σ) (operations : List Operation) (widget : Nat) (change : Edit) :
    let start := Run.start (new sync key notebookName notebook (.ofIssue issue)) state
    let controller := (start.steps link operations).controller
    ((∃ record next, controller.edit widget change = (.ok record, next)) ↔
        controller.disposed = false ∧ controller.mode = .grading ∧ controller.saving = false ∧
          ∃ binding cell, (widget, binding) ∈ controller.bindings ∧
            notebook.cells[binding.cellIndex]? = some cell ∧ change.Fits cell.tool) ∧
      ∀ record next, controller.edit widget change = (.ok record, next) →
        ∃ binding before after,
          Effect controller widget change binding before after record next := by
  intro start controller
  have agrees : controller.Agrees (underWay link start false operations) :=
    agrees_steps link (agrees_new sync key notebookName notebook fresh) operations
  have allPlaced : controller.AllPlaced :=
    allPlaced_run sync key notebookName notebook (.ofIssue issue) link state operations
  have same : controller.notebook = notebook := congrArg (·.2.2.2)
    (explains_run sync key notebookName notebook (.ofIssue issue) link state operations).1
  refine ⟨?_, fun record next made => exists_effect agrees allPlaced made⟩
  rw [← same]
  exact edit_eq_ok_iff agrees allPlaced widget change

/-- Half of the points are given for the only answer of a notebook. -/
theorem accepted_edit_has_effect_of_score :
    let link : Link Unit := fun _ state => (some (.plain 200 "\x7b\x7d"), state)
    let data : Json := .object [("nbgrader", .object [("grade", .bool true),
      ("grade_id", .string "c"), ("points", .number (.natural 5))])]
    let cell : Cell := ⟨none, .markdown, data, .text ""⟩
    let sync : Sync := ⟨⟨"", none⟩, ⟨"t", [(1, .tutor)]⟩⟩
    let controller := ((Run.start (new sync ⟨1, 2, 3⟩ "h" ⟨[cell], .null⟩ (.ofIssue id)) ()).steps
      link [.setGradingMode true]).controller
    Function.Injective (id : Nat → Nat) ∧ Edit.Fits cell.tool (.manualScore 2.5) ∧
      ∃ record next, controller.edit 0 (.manualScore 2.5) = (.ok record, next) ∧
        record.manualScore = some 2.5 := by
  intro link data cell sync controller
  have fits : Edit.Fits cell.tool (.manualScore 2.5) :=
    ⟨by decide +kernel, by decide +kernel, by decide +kernel, 5, by decide +kernel,
      by decide +kernel⟩
  have opened : controller.disposed = false := by decide +kernel
  have graded : controller.mode = .grading := by decide +kernel
  have idle : controller.saving = false := by decide +kernel
  have bound : controller.bindings.map (fun entry => (entry.1, entry.2.cellIndex)) = [(0, 0)] := by
    decide +kernel
  rcases List.map_eq_singleton_iff.1 bound with ⟨⟨widget, binding⟩, only, named⟩
  rcases Prod.mk.inj named with ⟨first, position⟩
  have listed : (0, binding) ∈ controller.bindings := by
    rw [only, ← first]
    exact List.mem_cons_self
  have stands : [cell][binding.cellIndex]? = some cell := by
    rw [position]
    rfl
  have law := accepted_edit_has_effect sync ⟨1, 2, 3⟩ "h" ⟨[cell], .null⟩ Function.injective_id
    link () [.setGradingMode true] 0 (.manualScore 2.5)
  rcases law.1.2 ⟨opened, graded, idle, binding, cell, listed, stands, fits⟩
    with ⟨record, next, made⟩
  rcases law.2 record next made with ⟨_, _, _, effect⟩
  rcases effect.written with ⟨earlier, _, rfl⟩
  exact ⟨Function.injective_id, fits, _, next, made, rfl⟩

end Controller

end Gradebook
