import Gradebook.Proofs.Grading.Log

namespace Gradebook

namespace Controller

/-!
# Operations that fail

An operation that fails leaves everything as it was: the ledger, the widgets with
what they show, the mode, and all that the host was told.  This is not for lack of
trying.  Entering grading mode takes hold of the ledger before it can fail, and an
edit is written before the record of its cell is taken again.  What excludes a
failure half way is that every cell with a widget has both of its entries, however
little the fetched ledger held.

The same fact limits how an edit can fail at all: never for want of an entry, and
with no score in it only when the controller takes no edits.
-/

variable {controller : Controller}

/-- An edit is refused for what the controller is doing, for its widget, or for its
score. -/
theorem RefusesEdit.cause {widget : Nat} {change : Edit} {error : ControllerError}
    (reason : RefusesEdit controller widget change error) :
    error = .disposed ∨ error = .notGrading ∨ error = .saveInFlight ∨
      error = .unknownWidget widget ∨ error = .noScoreField widget ∨
      ∃ refused, error = .ledger (.score refused) := by
  cases reason with
  | disposed closed => exact .inl rfl
  | notGrading viewed => exact .inr (.inl rfl)
  | saveInFlight saving => exact .inr (.inr (.inl rfl))
  | unknownWidget unknown => exact .inr (.inr (.inr (.inl rfl)))
  | noScoreField found score scoreless => exact .inr (.inr (.inr (.inr (.inl rfl))))
  | score found refused => exact .inr (.inr (.inr (.inr (.inr ⟨_, rfl⟩))))

/-- Comments and flags are taken as they are. -/
theorem check_setting {change : Edit} (plain : change.isScore = false) (tool : Tool) :
    (change.setting tool).check = .ok () := by
  cases change with
  | manualScore score => cases plain
  | extraCredit amount => cases plain
  | comment text => rfl
  | needsManualGrade flag => rfl

theorem lookup_ne_none {bindings : List (Nat × Binding)} {entry : Nat × Binding}
    (listed : entry ∈ bindings) : bindings.lookup entry.1 ≠ none := by
  intro unknown
  have differs := List.lookup_eq_none_iff.1 unknown entry listed
  rw [bne_self_eq_false] at differs
  cases differs

theorem eq_of_switches_error {enabled : Bool} {fetched : List Ledger} {error : ControllerError}
    {next : Controller} (switched : Switches controller enabled fetched (.error error) next) :
    next = controller := by
  cases switched
  rfl

theorem eq_of_edits_error {widget : Nat} {change : Edit} {error : ControllerError}
    {next : Controller} (edited : Edits controller widget change (.error error) next) :
    next = controller := by
  cases edited
  rfl

theorem cause_of_edits_error {widget : Nat} {change : Edit} {error : ControllerError}
    {next : Controller} (edited : Edits controller widget change (.error error) next) :
    RefusesEdit controller widget change error := by
  cases edited with
  | refused reason => exact reason

/-- While edits are taken, one is accepted in a known widget that has its field and takes its
value. -/
theorem exists_edit_of_takes (coherent : controller.Coherent)
    (graded : controller.mode = .grading) (idle : controller.saving = false) {widget : Nat}
    {change : Edit} (known : controller.bindings.lookup widget ≠ none)
    (takes : ∀ binding, controller.bindings.lookup widget = some binding →
      (change.isScore = true → binding.hasScoreFields = true) ∧
        (change.setting binding.tool).check = .ok ()) :
    ∃ record next, controller.edit widget change = (.ok record, next) := by
  have edited := edits coherent widget change
  cases made : controller.edit widget change with
  | mk answer next =>
      cases answer with
      | ok record => exact ⟨record, next, rfl⟩
      | error error =>
          rw [made] at edited
          cases cause_of_edits_error edited with
          | disposed closed => exact absurd closed (Bool.eq_false_iff.1 (coherent.opened graded))
          | notGrading viewed => exact absurd graded viewed
          | saveInFlight saving => exact absurd saving (Bool.eq_false_iff.1 idle)
          | unknownWidget unknown => exact absurd unknown known
          | noScoreField found score scoreless =>
              exact absurd ((takes _ found).1 score) (Bool.eq_false_iff.1 scoreless)
          | score found refused => cases (takes _ found).2.symm.trans refused

/-- While edits are taken, one without a score is never refused in a widget that is
attached. -/
theorem exists_edit (coherent : controller.Coherent) (graded : controller.mode = .grading)
    (idle : controller.saving = false) {entry : Nat × Binding}
    (listed : entry ∈ controller.bindings) {change : Edit} (plain : change.isScore = false) :
    ∃ record next, controller.edit entry.1 change = (.ok record, next) := by
  apply exists_edit_of_takes coherent graded idle (lookup_ne_none listed)
  intro binding _
  exact ⟨fun score => absurd score (Bool.eq_false_iff.1 plain), check_setting plain binding.tool⟩

theorem eq_of_begins_error {error : ControllerError} {next : Controller}
    (begun : Begins controller (.error error) next) : next = controller := by
  cases begun
  rfl

/-- In every run, switching, editing and beginning a save leave the whole controller
and its host as they were when they fail.  An edit fails for one of the listed causes,
and never for one of them if it holds no score, its widget is attached, and edits are
taken at all. -/
theorem unchanged_of_error {σ : Type} (sync : Sync) (key : SubmissionKey) (notebookName : String)
    (notebook : Notebook) (host : Host) (link : Link σ) (state : σ)
    (operations : List Operation) :
    let run := (Run.start (new sync key notebookName notebook host) state).steps link operations
    let controller := run.controller
    (∀ enabled error next final,
      (controller.setGradingMode enabled).run link run.state = ((.error error, next), final) →
      next = controller) ∧
    (∀ widget change error next,
      controller.edit widget change = (.error error, next) →
      next = controller ∧
        (error = .disposed ∨ error = .notGrading ∨ error = .saveInFlight ∨
          error = .unknownWidget widget ∨ error = .noScoreField widget ∨
          ∃ refused, error = .ledger (.score refused))) ∧
    (∀ error next, controller.beginSave = (.error error, next) → next = controller) ∧
    (controller.mode = .grading → controller.saving = false →
      ∀ entry ∈ controller.bindings, ∀ change, change.isScore = false →
        ∃ record next, controller.edit entry.1 change = (.ok record, next)) := by
  intro run controller
  have coherent : controller.Coherent :=
    (explains_run sync key notebookName notebook host link state operations).2.1
  refine ⟨?_, ?_, ?_, ?_⟩
  · intro enabled error next final failed
    have switched := switches coherent link enabled run.state
    rw [failed] at switched
    exact eq_of_switches_error switched
  · intro widget change error next failed
    have edited := edits coherent widget change
    rw [failed] at edited
    exact ⟨eq_of_edits_error edited, (cause_of_edits_error edited).cause⟩
  · intro error next failed
    have begun := begins controller
    rw [failed] at begun
    exact eq_of_begins_error begun
  · intro graded idle entry listed change plain
    exact exists_edit coherent graded idle listed plain

/-- A score above the budget of its cell is refused and leaves no trace; a comment on
the same cell is taken. -/
theorem unchanged_of_error_above_budget :
    let link : Link Unit := fun _ state => (some (.plain 200 "\x7b\x7d"), state)
    let data : Json := .object
      [("nbgrader", .object [("grade", .bool true), ("grade_id", .string "c")])]
    let notebook : Notebook := ⟨[⟨none, .markdown, data, .text ""⟩], .null⟩
    let sync : Sync := ⟨⟨"", none⟩, ⟨"t", [(1, .tutor)]⟩⟩
    let controller := ((Run.start (new sync ⟨1, 2, 3⟩ "h" notebook (.ofIssue id)) ()).steps link
      [.setGradingMode true]).controller
    (∃ error, controller.edit 0 (.manualScore 5) = (.error error, controller)) ∧
      ∀ text, ∃ record next, controller.edit 0 (.comment text) = (.ok record, next) := by
  intro link data notebook sync controller
  have law := unchanged_of_error sync ⟨1, 2, 3⟩ "h" notebook (.ofIssue id) link ()
    [.setGradingMode true]
  rcases law with ⟨_, kept, _, taken⟩
  constructor
  · have failed : (controller.edit 0 (.manualScore 5)).1.isOk = false := by decide +kernel
    cases made : controller.edit 0 (.manualScore 5) with
    | mk answer next =>
        rw [made] at failed
        cases answer with
        | ok record => cases failed
        | error error =>
            have same := (kept 0 (.manualScore 5) error next made).1
            subst same
            exact ⟨error, rfl⟩
  · have graded : controller.mode = .grading := by decide +kernel
    have idle : controller.saving = false := by decide +kernel
    have attached : 0 ∈ controller.bindings.map Prod.fst := by decide +kernel
    rcases List.mem_map.1 attached with ⟨entry, listed, named⟩
    intro text
    rw [← named]
    exact taken graded idle entry listed (.comment text) rfl

end Controller

end Gradebook
