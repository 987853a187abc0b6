import Gradebook.Proofs.Ledger.View

namespace Gradebook

namespace Ledger

/-!
# The last write counts

A run is any sequence of steps, of which some succeed and some do not.  Whatever the run, a
ledger behaves as a table of fields.  A field has the value that was stored last.  Where none
was stored it has the value from the start, and if its entry is new, the value that the first
tool gave it.  It makes no difference what else the run did, nor in which of the two
dictionaries of which notebook an entry stands.

Each step gives what is read afterwards by what was read before, and the run follows by
induction.  The graded cells are counted in the same way: they are those from the start and
those for which a step was told that it created the entry.
-/

variable {α : Type} {ledger : Ledger} {notebook cell : String}

/-! ## Runs -/

/-- The steps of a run, each with what its caller is told. -/
def trace (ledger : Ledger) : List Step → List (Step × Bool)
  | [] => []
  | step :: rest => (step, step.answer ledger) :: (step.perform ledger).trace rest

namespace Step

/-- The value that a step has stored in a field of a cell. -/
def stored? (notebook cell : String) (value? : Setting → Option α) : Step × Bool → Option α
  | (.set otherNotebook otherCell setting, true) =>
    if (notebook, cell) = (otherNotebook, otherCell) then value? setting else none
  | _ => none

/-- The tool with which a step makes sure of a cell. -/
def tool? (notebook cell : String) : Step → Option Tool
  | .ensureEntry otherNotebook otherCell tool =>
    if (notebook, cell) = (otherNotebook, otherCell) then some tool else none
  | .set _ _ _ => none

/-- The cell of a notebook for which a step has created a grade entry. -/
def created? (notebook : String) : Step × Bool → Option String
  | (.ensureEntry otherNotebook cell _, true) =>
    if notebook = otherNotebook then some cell else none
  | _ => none

end Step

/-- The value that was stored last in a field of a cell. -/
def lastStored (ledger : Ledger) (steps : List Step) (notebook cell : String)
    (value? : Setting → Option α) : Option α :=
  ((ledger.trace steps).filterMap (Step.stored? notebook cell value?)).getLast?

/-- The tool with which a run first makes sure of a cell. -/
def firstTool (steps : List Step) (notebook cell : String) : Option Tool :=
  steps.findSome? (Step.tool? notebook cell)

/-- The cells of a notebook for which a run has created grade entries, in its order. -/
def created (ledger : Ledger) (steps : List Step) (notebook : String) : List String :=
  (ledger.trace steps).filterMap (Step.created? notebook)

theorem lastStored_cons (ledger : Ledger) (step : Step) (rest : List Step)
    (notebook cell : String) (value? : Setting → Option α) :
    ledger.lastStored (step :: rest) notebook cell value? =
      ((step.perform ledger).lastStored rest notebook cell value?).or
        (Step.stored? notebook cell value? (step, step.answer ledger)) := by
  rw [lastStored, trace, List.filterMap_cons]
  cases Step.stored? notebook cell value? (step, step.answer ledger) with
  | none => exact (Option.or_none).symm
  | some a =>
      rw [List.getLast?_cons, lastStored]
      cases (((step.perform ledger).trace rest).filterMap
        (Step.stored? notebook cell value?)).getLast? <;> rfl

theorem firstTool_cons (step : Step) (rest : List Step) (notebook cell : String) :
    firstTool (step :: rest) notebook cell =
      (step.tool? notebook cell).or (firstTool rest notebook cell) := by
  rw [firstTool, List.findSome?_cons, firstTool]
  cases step.tool? notebook cell <;> rfl

/-! ## What is read of a cell -/

namespace View

/-- What is read after one step. -/
theorem read_perform (view : View α) (step : Step) (ledger : Ledger) (notebook cell : String) :
    view.read ((step.perform ledger).slot notebook cell) =
      (Step.stored? notebook cell view.value? (step, step.answer ledger)).or
        ((view.read (ledger.slot notebook cell)).or
          ((step.tool? notebook cell).map view.initial)) := by
  cases step with
  | ensureEntry target targetCell tool =>
      by_cases here : (notebook, cell) = (target, targetCell)
      · rw [Step.slot_perform_of_eq here]
        simp only [Step.effect, Step.stored?, Step.tool?, if_pos here, view.read_ensure,
          Option.none_or]
        cases view.read (ledger.slot notebook cell) <;> rfl
      · rw [Step.slot_perform_of_ne here]
        simp only [Step.stored?, Step.tool?, if_neg here, Option.none_or, Option.map_none,
          Option.or_none]
  | set target targetCell setting =>
      simp only [Step.tool?, Option.map_none, Option.or_none]
      by_cases here : (notebook, cell) = (target, targetCell)
      · have told : Step.answer ledger (.set target targetCell setting) =
            Step.told (ledger.slot notebook cell) (.set target targetCell setting) := by
          cases here
          exact Step.answer_eq _ ledger
        rw [Step.slot_perform_of_eq here, view.read_effect_set, told]
        cases Step.told (ledger.slot notebook cell) (.set target targetCell setting) with
        | false => rfl
        | true => simp only [Step.stored?, if_pos here, if_true]
      · rw [Step.slot_perform_of_ne here]
        cases Step.answer ledger (.set target targetCell setting) with
        | false => rfl
        | true => simp only [Step.stored?, if_neg here, Option.none_or]

/-- What is read after a run. -/
theorem read_after (view : View α) (ledger : Ledger) (steps : List Step)
    (notebook cell : String) :
    view.read ((ledger.after steps).slot notebook cell) =
      (ledger.lastStored steps notebook cell view.value?).or
        ((view.read (ledger.slot notebook cell)).or
          ((firstTool steps notebook cell).map view.initial)) := by
  induction steps generalizing ledger with
  | nil => exact Option.or_none.symm
  | cons step rest inductionHypothesis =>
      have later := inductionHypothesis (step.perform ledger)
      rw [view.read_perform] at later
      rw [lastStored_cons, firstTool_cons, Option.map_or]
      simp only [Option.or_assoc] at later ⊢
      exact later

end View

/-- What a getter gives after a run by the rule that the last write counts: the value that was
stored last; else, if the entry was there at the start, what the getter gave then; else, if the
run has made sure of the cell, the value in the new entry.  Else there is no entry. -/
def lastCounts (ledger : Ledger) (steps : List Step) (notebook cell : String) (present : Bool)
    (start : Except LedgerError α) (value? : Setting → Option α) (initial : Tool → α) :
    Except LedgerError α :=
  match ledger.lastStored steps notebook cell value? with
  | some value => .ok value
  | none =>
    if present then start
    else
      match firstTool steps notebook cell with
      | some tool => .ok (initial tool)
      | none => .error ((ledger.after steps).absence notebook cell)

/-- The rule for one view. -/
theorem get_after (ledger : Ledger) (steps : List Step) (view : View α)
    (notebook cell : String) :
    (ledger.after steps).get view notebook cell =
      ledger.lastCounts steps notebook cell (view.read (ledger.slot notebook cell)).isSome
        (ledger.get view notebook cell) view.value? view.initial := by
  rw [get, view.read_after, lastCounts]
  cases ledger.lastStored steps notebook cell view.value? with
  | some value => rfl
  | none =>
      rw [get]
      cases view.read (ledger.slot notebook cell) with
      | some value => rfl
      | none => cases firstTool steps notebook cell <;> rfl

theorem lastStored_none (ledger : Ledger) (steps : List Step) (notebook cell : String) :
    ledger.lastStored steps notebook cell (fun _ => (none : Option α)) = none := by
  have nothing : (ledger.trace steps).filterMap
      (Step.stored? notebook cell fun _ => (none : Option α)) = [] := by
    apply List.filterMap_eq_nil_iff.2
    intro told _
    unfold Step.stored?
    split
    · exact ite_self none
    · rfl
  rw [lastStored, nothing, List.getLast?_nil]

/-- The rule for a field of grade entries. -/
theorem get_ofGrade_after {field : GradeEntry → α} {value? : Setting → Option α}
    (ledger : Ledger) (steps : List Step) (notebook cell : String)
    (grading : ∀ setting, (value? setting).isSome = true → setting.comment? = none)
    (change : ∀ setting entry, setting.check = .ok () →
      field (setting.changeGrade entry) = (value? setting).getD (field entry)) :
    (ledger.after steps).get (.ofGrade field value? grading change) notebook cell =
      ledger.lastCounts steps notebook cell (ledger.contains notebook cell)
        (ledger.get (.ofGrade field value? grading change) notebook cell) value?
        fun tool => field (.initial tool) := by
  rw [get_after, View.ofGrade, Option.isSome_map, isSome_grade_slot]

/-- What no setter writes is as it was. -/
theorem get_kept_after {field : GradeEntry → α}
    (keeps : ∀ (setting : Setting) (entry : GradeEntry),
      field (setting.changeGrade entry) = field entry)
    (graded : ledger.contains notebook cell = true) (steps : List Step) :
    (ledger.after steps).get (.kept field keeps) notebook cell =
      ledger.get (.kept field keeps) notebook cell := by
  rw [View.kept, get_ofGrade_after, graded, lastCounts, lastStored_none]
  rfl

/-! ## The graded cells -/

/-- The graded cells of a notebook.  If it is missing there are none. -/
def listed (ledger : Ledger) (notebook : String) : List String :=
  (ledger.cellIds notebook).toOption.getD []

theorem ascending_listed (ledger : Ledger) (notebook : String) :
    (ledger.listed notebook).Pairwise (· < ·) := by
  rw [listed]
  cases found : ledger.cellIds notebook with
  | error failure => exact .nil
  | ok cells =>
      rcases cellIds_eq_ok_iff.1 found with ⟨grades, _, rfl⟩
      exact grades.grades.ascending

theorem nodup_listed (ledger : Ledger) (notebook : String) : (ledger.listed notebook).Nodup := by
  apply (ascending_listed ledger notebook).imp
  intro before after increasing equal
  exact String.lt_irrefl after (equal ▸ increasing)

theorem mem_listed_iff : cell ∈ ledger.listed notebook ↔ ledger.contains notebook cell = true := by
  rw [listed, cellIds, Ledger.notebook, contains]
  cases ledger.notebooks.get? notebook with
  | none => exact iff_of_false List.not_mem_nil Bool.false_ne_true
  | some grades =>
      change cell ∈ grades.grades.keys ↔ (grades.grades.get? cell).isSome = true
      rw [← Option.ne_none_iff_isSome, Ne, Dict.get?_eq_none_iff, not_not]

namespace Step

theorem contains_perform (step : Step) (ledger : Ledger) (notebook cell : String) :
    (step.perform ledger).contains notebook cell =
      (ledger.contains notebook cell || (step.tool? notebook cell).isSome) := by
  rw [← isSome_grade_slot, ← isSome_grade_slot]
  cases step with
  | ensureEntry target targetCell tool =>
      by_cases here : (notebook, cell) = (target, targetCell)
      · rw [slot_perform_of_eq here, tool?, if_pos here, Option.isSome_some, Bool.or_true]
        rfl
      · rw [slot_perform_of_ne here, tool?, if_neg here, Option.isSome_none, Bool.or_false]
  | set target targetCell setting =>
      rw [tool?, Option.isSome_none, Bool.or_false]
      by_cases here : (notebook, cell) = (target, targetCell)
      · rw [slot_perform_of_eq here, effect]
        cases setting.check with
        | error failure => rfl
        | ok _ => exact Option.isSome_map
      · rw [slot_perform_of_ne here]

theorem isSome_tool?_ensureEntry {target targetCell : String} {tool : Tool} :
    (tool? notebook cell (.ensureEntry target targetCell tool)).isSome = true ↔
      notebook = target ∧ cell = targetCell := by
  rw [tool?, Option.isSome_iff_exists]
  split_ifs with here
  · exact iff_of_true ⟨tool, rfl⟩ (Prod.mk.inj here)
  · exact iff_of_false nofun fun both => here (Prod.ext both.1 both.2)

/-- A grade entry is created where a step makes sure of a cell that has none. -/
theorem created?_eq_some_iff (step : Step) (ledger : Ledger) :
    created? notebook (step, step.answer ledger) = some cell ↔
      ledger.contains notebook cell = false ∧ (step.tool? notebook cell).isSome = true := by
  cases step with
  | set target targetCell setting =>
      exact iff_of_false (Option.some_ne_none cell).symm fun both => Bool.false_ne_true both.2
  | ensureEntry target targetCell tool =>
      rw [isSome_tool?_ensureEntry]
      change created? notebook (_, !ledger.contains target targetCell) = some cell ↔ _
      cases graded : ledger.contains target targetCell with
      | true =>
          refine iff_of_false (Option.some_ne_none cell).symm ?_
          rintro ⟨missing, rfl, rfl⟩
          exact Bool.false_ne_true (missing.symm.trans graded)
      | false =>
          change (if notebook = target then some targetCell else none) = some cell ↔ _
          constructor
          · intro created
            split_ifs at created with same
            cases created
            exact ⟨same ▸ graded, same, rfl⟩
          · rintro ⟨_, rfl, rfl⟩
            exact if_pos rfl

/-- A cell is graded after a step if it was before or if the step has created its entry. -/
theorem contains_perform_iff (step : Step) (ledger : Ledger) :
    (step.perform ledger).contains notebook cell = true ↔
      ledger.contains notebook cell = true ∨
        created? notebook (step, step.answer ledger) = some cell := by
  rw [contains_perform, created?_eq_some_iff, Bool.or_eq_true]
  cases ledger.contains notebook cell with
  | true => exact iff_of_true (.inl rfl) (.inl rfl)
  | false => simp only [Bool.false_eq_true, false_or, true_and]

end Step

/-- The cells whose grade entries have been created are those that are graded now and were not
before, each of them once. -/
structure CreatedIn (ledger next : Ledger) (notebook : String) (created : List String) : Prop where
  contains_iff : ∀ cell, next.contains notebook cell = true ↔
    ledger.contains notebook cell = true ∨ cell ∈ created
  fresh : ∀ cell ∈ created, ledger.contains notebook cell = false
  nodup : created.Nodup

theorem createdIn_after (ledger : Ledger) (steps : List Step) (notebook : String) :
    CreatedIn ledger (ledger.after steps) notebook (ledger.created steps notebook) := by
  induction steps generalizing ledger with
  | nil => exact ⟨fun cell => (or_iff_left List.not_mem_nil).symm, nofun, .nil⟩
  | cons step rest inductionHypothesis =>
      have later := inductionHypothesis (step.perform ledger)
      -- no step takes an entry away, so what the rest creates was missing before this step too
      have before : ∀ cell ∈ (step.perform ledger).created rest notebook,
          ledger.contains notebook cell = false := by
        intro cell created
        have missing := later.fresh cell created
        rw [Step.contains_perform, Bool.or_eq_false_iff] at missing
        exact missing.1
      rw [created, trace, List.filterMap_cons]
      split
      · next nothing =>
        refine ⟨fun cell => (later.contains_iff cell).trans ?_, before, later.nodup⟩
        rw [Step.contains_perform_iff, nothing]
        simp only [reduceCtorEq, or_false]
        rfl
      · next new isNew =>
        have made := (Step.created?_eq_some_iff step ledger).1 isNew
        constructor
        case contains_iff =>
          intro cell
          refine (later.contains_iff cell).trans ?_
          rw [Step.contains_perform_iff, isNew, List.mem_cons, Option.some.injEq, or_assoc,
            eq_comm (a := new)]
          rfl
        case fresh =>
          intro cell created
          rcases List.mem_cons.1 created with rfl | created
          · exact made.1
          · exact before cell created
        case nodup =>
          refine List.nodup_cons.2 ⟨fun again => ?_, later.nodup⟩
          -- after this step the new cell is graded, and for such a cell nothing is created
          have missing := later.fresh new again
          rw [Step.contains_perform, made.2, Bool.or_true] at missing
          cases missing

/-- The list of the graded cells grows by the cells whose entries have been created. -/
theorem listed_after (ledger : Ledger) (steps : List Step) (notebook : String) :
    ((ledger.after steps).listed notebook).Perm
      (ledger.listed notebook ++ ledger.created steps notebook) := by
  have createdIn := createdIn_after ledger steps notebook
  have apart : (ledger.listed notebook).Disjoint (ledger.created steps notebook) := by
    intro cell graded created
    have missing := createdIn.fresh cell created
    rw [mem_listed_iff.1 graded] at missing
    cases missing
  apply (List.perm_ext_iff_of_nodup (nodup_listed _ notebook)
    ((nodup_listed ledger notebook).append createdIn.nodup apart)).2
  intro cell
  rw [mem_listed_iff, List.mem_append, mem_listed_iff]
  exact createdIn.contains_iff cell

theorem exists_cellIds_iff : (∃ cells, ledger.cellIds notebook = .ok cells) ↔
    (ledger.beside notebook).isSome = true := by
  simp only [cellIds_eq_ok_iff, beside, Option.isSome_map, Option.isSome_iff_exists]
  constructor
  · rintro ⟨_, grades, held, _⟩
    exact ⟨grades, held⟩
  · rintro ⟨grades, held⟩
    exact ⟨_, grades, held, rfl⟩

theorem Step.isSome_opened_iff (step : Step) (beside : Option (Extra notebookFields)) :
    (step.opened notebook beside).isSome = true ↔
      beside.isSome = true ∨ ∃ cell tool, step = .ensureEntry notebook cell tool := by
  cases step with
  | set target cell setting =>
      simp only [opened, reduceCtorEq, exists_false, or_false]
  | ensureEntry target cell tool =>
      simp only [opened, ensureEntry.injEq]
      split_ifs with same
      · exact iff_of_true rfl (.inr ⟨cell, tool, same.symm, rfl, rfl⟩)
      · refine (or_iff_left ?_).symm
        rintro ⟨_, _, here, _⟩
        exact same here.symm

/-- A notebook is there after a run if it was at the start or if the run has made sure of one
of its cells. -/
theorem exists_cellIds_after_iff (ledger : Ledger) (steps : List Step) (notebook : String) :
    (∃ cells, (ledger.after steps).cellIds notebook = .ok cells) ↔
      (∃ cells, ledger.cellIds notebook = .ok cells) ∨
        ∃ cell tool, Step.ensureEntry notebook cell tool ∈ steps := by
  simp only [exists_cellIds_iff]
  induction steps generalizing ledger with
  | nil => simp only [List.not_mem_nil, exists_false, or_false]; rfl
  | cons step rest inductionHypothesis =>
      refine (inductionHypothesis (step.perform ledger)).trans ?_
      rw [Step.beside_perform, Step.isSome_opened_iff, or_assoc]
      simp only [List.mem_cons, exists_or, eq_comm (a := step)]

/-! ## Records -/

theorem record_eq_found (ledger : Ledger) (notebook cell : String) :
    ledger.record notebook cell =
      ledger.found notebook cell ((ledger.slot notebook cell).grade.map fun entry =>
        Record.ofEntries cell entry (ledger.slot notebook cell).comment) := by
  rw [Ledger.record, grade_eq_found]
  cases held : ledger.notebooks.get? notebook with
  | none =>
      rw [slot_of_missing held]
      rfl
  | some grades =>
      rw [slot_of_get? held, notebook_eq_ok_iff.2 held, NotebookGrades.slot]
      cases grades.grades.get? cell <;> rfl

/-- A record is what the getters give.  Where there is no comment entry its comment is
empty. -/
theorem record_eq_getters (ledger : Ledger) (notebook cell : String) :
    ledger.record notebook cell = (do
      let manualScore ← ledger.manualScore notebook cell
      let autoScore ← ledger.autoScore notebook cell
      let extraCredit ← ledger.extraCredit notebook cell
      let needsManualGrade ← ledger.needsManualGrade notebook cell
      let comment := (ledger.comment notebook cell).toOption.getD ""
      return ⟨cell, manualScore, autoScore, extraCredit, comment, needsManualGrade⟩) := by
  rw [record_eq_found, manualScore_eq_get, autoScore_eq_get, extraCredit_eq_get,
    needsManualGrade_eq_get, comment_eq_get]
  simp only [get, View.manualScore, View.autoScore, View.extraCredit, View.needsManualGrade,
    View.comment, View.kept, View.ofGrade]
  rcases ledger.slot notebook cell with ⟨grade, comment⟩
  cases grade with
  | none => rfl
  | some entry => cases comment <;> rfl

/-! ## The rule -/

/-- What holds of the ledger after a run.  The four fields that can be set follow the rule
that the last write counts, each for its own entry; the scores that no setter writes stay as
they are; the graded cells of a notebook are listed in order, and their list grows by the cells
whose entries the run has created; a cell is graded just where it is listed; and a record is
what the getters give. -/
structure AfterRun (ledger : Ledger) (steps : List Step) : Prop where
  manualScore : ∀ notebook cell, (ledger.after steps).manualScore notebook cell =
    ledger.lastCounts steps notebook cell (ledger.contains notebook cell)
      (ledger.manualScore notebook cell) (fun setting => setting.manualScore?.map some)
      fun _ => none
  extraCredit : ∀ notebook cell, (ledger.after steps).extraCredit notebook cell =
    ledger.lastCounts steps notebook cell (ledger.contains notebook cell)
      (ledger.extraCredit notebook cell) Setting.extraCredit? fun _ => 0
  needsManualGrade : ∀ notebook cell, (ledger.after steps).needsManualGrade notebook cell =
    ledger.lastCounts steps notebook cell (ledger.contains notebook cell)
      (ledger.needsManualGrade notebook cell) Setting.needsManualGrade?
      fun tool => tool.role = .manual || tool.role = .task
  comment : ∀ notebook cell, (ledger.after steps).comment notebook cell =
    ledger.lastCounts steps notebook cell (ledger.commentEntry notebook cell).isOk
      (ledger.comment notebook cell) Setting.comment? fun _ => ""
  kept : ∀ notebook cell, ledger.contains notebook cell = true →
    (ledger.after steps).autoScore notebook cell = ledger.autoScore notebook cell ∧
      (ledger.after steps).maxScore notebook cell = ledger.maxScore notebook cell
  ascending : ∀ notebook cells, (ledger.after steps).cellIds notebook = .ok cells →
    cells.Pairwise (· < ·)
  opened : ∀ notebook, (∃ cells, (ledger.after steps).cellIds notebook = .ok cells) ↔
    (∃ cells, ledger.cellIds notebook = .ok cells) ∨
      ∃ cell tool, Step.ensureEntry notebook cell tool ∈ steps
  grows : ∀ notebook, ((ledger.after steps).listed notebook).Perm
    (ledger.listed notebook ++ ledger.created steps notebook)
  contains_iff : ∀ notebook cell, (ledger.after steps).contains notebook cell = true ↔
    ∃ cells, (ledger.after steps).cellIds notebook = .ok cells ∧ cell ∈ cells
  record : ∀ notebook cell, (ledger.after steps).record notebook cell = (do
    let next := ledger.after steps
    let manualScore ← next.manualScore notebook cell
    let autoScore ← next.autoScore notebook cell
    let extraCredit ← next.extraCredit notebook cell
    let needsManualGrade ← next.needsManualGrade notebook cell
    let comment := (next.comment notebook cell).toOption.getD ""
    return ⟨cell, manualScore, autoScore, extraCredit, comment, needsManualGrade⟩)

/-- A ledger behaves as a table of fields in which the last write counts, whatever is done to
it and in which order. -/
theorem last_write_counts (ledger : Ledger) (steps : List Step) : AfterRun ledger steps where
  manualScore notebook cell := by
    rw [manualScore_eq_get, manualScore_eq_get]
    exact get_ofGrade_after ledger steps notebook cell _ _
  extraCredit notebook cell := by
    rw [extraCredit_eq_get, extraCredit_eq_get]
    exact get_ofGrade_after ledger steps notebook cell _ _
  needsManualGrade notebook cell := by
    rw [needsManualGrade_eq_get, needsManualGrade_eq_get]
    exact get_ofGrade_after ledger steps notebook cell _ _
  comment notebook cell := by
    rw [comment_eq_get, comment_eq_get, get_after, commentEntry_eq_found, isOk_found, View.comment,
      Option.isSome_map]
  kept notebook cell graded := by
    rw [autoScore_eq_get, autoScore_eq_get, maxScore_eq_get, maxScore_eq_get]
    exact ⟨get_kept_after _ graded steps, get_kept_after _ graded steps⟩
  ascending notebook cells found := by
    rcases cellIds_eq_ok_iff.1 found with ⟨grades, _, rfl⟩
    exact grades.grades.ascending
  opened notebook := exists_cellIds_after_iff ledger steps notebook
  grows notebook := listed_after ledger steps notebook
  contains_iff notebook cell := by
    rw [← mem_listed_iff, listed]
    cases (ledger.after steps).cellIds notebook with
    | error failure => exact iff_of_false List.not_mem_nil nofun
    | ok cells => simp only [Except.ok.injEq, exists_eq_left', Except.toOption, Option.getD_some]
  record notebook cell := record_eq_getters _ notebook cell

/-- A comment that comes too early is lost, and of the others the last one counts. -/
example :
    let run : List Step := [.set "hw" "q1" (.comment "too early"),
      .ensureEntry "hw" "q1" ⟨"q1", .manual, none, true⟩, .set "hw" "q1" (.comment "good"),
      .ensureEntry "hw" "q1" ⟨"q1", .tests, none, false⟩, .set "hw" "q1" (.comment "better")]
    let next := Ledger.empty.after run
    next.comment "hw" "q1" = .ok "better" ∧ next.needsManualGrade "hw" "q1" = .ok true ∧
      Ledger.empty.created run "hw" = ["q1"] ∧
      next.comment "hw" "q2" = .error (.missing "hw" (some "q2")) := by
  refine ⟨rfl, rfl, rfl, rfl⟩

end Ledger

end Gradebook
