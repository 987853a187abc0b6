import Gradebook.Proofs.Ledger.Slot

namespace Gradebook

namespace Ledger

/-!
# Steps that can be exchanged

Two steps on different cells can be made in either order, and so can two setters of different
fields of one cell.  The ledger is the same in the end, and so is what either caller is told.
This holds although making sure of a cell may open the very notebook that the other step is
about: a notebook without an entry of a cell answers just as a missing one does.

Nothing is said of two setters of one field, of which the later one counts, nor of a setter
and the step that makes sure of its own cell, which has to come first.
-/

/-! ## Two setters -/

namespace Setting

variable {first second : Setting}

/-- Of two setters of different fields only one can have a value for a field. -/
theorem none_or_none {α : Type} {value? : Setting → Option α} {field : CellField}
    (leaves : ∀ setting : Setting, setting.field ≠ field → value? setting = none)
    (differs : first.field ≠ second.field) : value? first = none ∨ value? second = none := by
  by_cases here : first.field = field
  · exact .inr (leaves second fun there => differs (here.trans there.symm))
  · exact .inl (leaves first here)

theorem changeGrade_comm (differs : first.field ≠ second.field) (entry : GradeEntry) :
    second.changeGrade (first.changeGrade entry) =
      first.changeGrade (second.changeGrade entry) := by
  have scores : first.manualScore? = none ∨ second.manualScore? = none :=
    none_or_none (fun setting => setting.leavesOthers.manualScore) differs
  have amounts : first.extraCredit? = none ∨ second.extraCredit? = none :=
    none_or_none (fun setting => setting.leavesOthers.extraCredit) differs
  have flags : first.needsManualGrade? = none ∨ second.needsManualGrade? = none :=
    none_or_none (fun setting => setting.leavesOthers.needsManualGrade) differs
  have numbers : ∀ {one other : Option Float}, one = none ∨ other = none →
      one.bind Number.ofFloat? = none ∨ other.bind Number.ofFloat? = none :=
    Or.imp (fun missing => by rw [missing, Option.bind_none])
      (fun missing => by rw [missing, Option.bind_none])
  simp only [changeGrade, Field.updated_comm (numbers scores),
    Field.updated_comm (numbers amounts), Field.updated_comm flags]

theorem changeComment_comm (differs : first.field ≠ second.field) (entry : CommentEntry) :
    second.changeComment (first.changeComment entry) =
      first.changeComment (second.changeComment entry) := by
  have texts : first.comment? = none ∨ second.comment? = none :=
    none_or_none (fun setting => setting.leavesOthers.comment) differs
  simp only [changeComment, Field.updated_comm texts]

/-- No setter gives or takes an entry, so another one finds what it found before. -/
theorem finds_put (first second : Setting) (slot : Slot) :
    second.finds (slot.put first) = second.finds slot := by
  simp only [finds, Slot.put, Option.isSome_map]

end Setting

theorem Slot.put_comm {first second : Setting} (differs : first.field ≠ second.field)
    (slot : Slot) : (slot.put first).put second = (slot.put second).put first := by
  have grades : second.changeGrade ∘ first.changeGrade = first.changeGrade ∘ second.changeGrade :=
    funext (Setting.changeGrade_comm differs)
  have comments :
      second.changeComment ∘ first.changeComment = first.changeComment ∘ second.changeComment :=
    funext (Setting.changeComment_comm differs)
  simp only [put, Option.map_map, grades, comments]

/-! ## Exchanging two steps -/

namespace Step

/-- Two steps of which neither disturbs the other: they are about different cells, or they
set different fields of one cell. -/
inductive Independent : Step → Step → Prop
  | places {first second : Step} (apart : first.place ≠ second.place) : Independent first second
  | fields (notebook cell : String) {first second : Setting}
    (differs : first.field ≠ second.field) :
    Independent (.set notebook cell first) (.set notebook cell second)

variable {first second : Step}

theorem Independent.symm (independent : first.Independent second) :
    second.Independent first := by
  cases independent with
  | places apart => exact .places apart.symm
  | fields notebook cell differs => exact .fields notebook cell differs.symm

/-- Opening notebooks can be exchanged whatever the steps are. -/
theorem opened_comm (first second : Step) (notebook : String)
    (beside : Option (Extra notebookFields)) :
    second.opened notebook (first.opened notebook beside) =
      first.opened notebook (second.opened notebook beside) := by
  cases first with
  | set => cases second <;> rfl
  | ensureEntry target cell tool =>
      cases second with
      | set => rfl
      | ensureEntry otherTarget otherCell otherTool =>
          simp only [opened]
          split_ifs <;> rfl

theorem effect_comm {first second : Setting} (differs : first.field ≠ second.field)
    (notebook cell : String) (slot : Slot) :
    effect (effect slot (.set notebook cell first)) (.set notebook cell second) =
      effect (effect slot (.set notebook cell second)) (.set notebook cell first) := by
  cases taken : first.check with
  | error failure => simp only [effect, taken]
  | ok _ =>
      cases takenToo : second.check with
      | error failure => simp only [effect, taken, takenToo]
      | ok _ =>
          simp only [effect, taken, takenToo]
          exact Slot.put_comm differs slot

/-- The ledger does not depend on the order of two such steps. -/
theorem perform_comm (independent : first.Independent second) (ledger : Ledger) :
    second.perform (first.perform ledger) = first.perform (second.perform ledger) := by
  apply ext_slots
  · intro notebook cell
    simp only [slot_perform]
    cases independent with
    | places apart =>
        by_cases here : (notebook, cell) = first.place
        · have elsewhere : (notebook, cell) ≠ second.place := fun there =>
            apart (here.symm.trans there)
          rw [if_neg elsewhere, if_neg elsewhere]
        · rw [if_neg here, if_neg here]
    | @fields target targetCell firstSetting secondSetting differs =>
        -- both are about the cell or neither is
        have same : place (.set target targetCell firstSetting) =
          place (.set target targetCell secondSetting) := rfl
        rw [same]
        split_ifs
        · exact effect_comm differs target targetCell _
        · rfl
  · intro notebook
    simp only [beside_perform]
    exact opened_comm first second notebook _

/-- What the caller of a step is told is the same when the other step has been made before. -/
theorem answer_perform (independent : first.Independent second) (ledger : Ledger) :
    second.answer (first.perform ledger) = second.answer ledger := by
  simp only [answer_eq, slot_perform]
  cases independent with
  | places apart =>
      have elsewhere : (second.place.1, second.place.2) ≠ first.place := apart.symm
      rw [if_neg elsewhere]
  | @fields notebook cell firstSetting secondSetting differs =>
      simp only [place, if_true, told, effect]
      cases firstSetting.check with
      | error failure => rfl
      | ok _ => simp only [Setting.finds_put]

/-- Two steps on different cells, and two setters of different fields of one cell, can be made
in either order in any ledger.  The ledger is the same in the end, a setter succeeds in one
order just where it does in the other, and a step that makes sure of a cell gives the same
answer in both. -/
theorem exchange_of_independent (independent : first.Independent second) (ledger : Ledger) :
    second.perform (first.perform ledger) = first.perform (second.perform ledger) ∧
      first.answer (second.perform ledger) = first.answer ledger ∧
      second.answer (first.perform ledger) = second.answer ledger :=
  ⟨perform_comm independent ledger, answer_perform independent.symm ledger,
    answer_perform independent ledger⟩

/-- Two cells of a notebook that is missing, of which one gets its entries and the other one a
comment, which fails; and a comment beside a flag. -/
theorem exchange_of_neighbours :
    let opening : Step := .ensureEntry "hw" "q1" ⟨"q1", .manual, none, true⟩
    let commenting : Step := .set "hw" "q2" (.comment "good")
    let flagging : Step := .set "hw" "q2" (.needsManualGrade false)
    opening.place ≠ commenting.place ∧
      (commenting.perform (opening.perform .empty) = opening.perform (commenting.perform .empty) ∧
        opening.answer (commenting.perform .empty) = opening.answer .empty ∧
        commenting.answer (opening.perform .empty) = commenting.answer .empty) ∧
      commenting.answer .empty = false ∧ opening.answer .empty = true ∧
      (∀ ledger, flagging.perform (commenting.perform ledger) =
          commenting.perform (flagging.perform ledger) ∧
        commenting.answer (flagging.perform ledger) = commenting.answer ledger ∧
        flagging.answer (commenting.perform ledger) = flagging.answer ledger) := by
  intro opening commenting flagging
  have apart : opening.place ≠ commenting.place := by decide
  exact ⟨apart, exchange_of_independent (.places apart) .empty, by decide, by decide,
    exchange_of_independent (.fields "hw" "q2" (by decide))⟩

end Step

/-- Steps of which no two disturb each other can be made in any order. -/
theorem after_perm {steps others : List Step} (order : steps.Perm others)
    (independent : steps.Pairwise Step.Independent) (ledger : Ledger) :
    ledger.after steps = ledger.after others := by
  induction order generalizing ledger with
  | nil => rfl
  | cons step _ inductionHypothesis =>
      exact inductionHypothesis (List.Pairwise.of_cons independent) (step.perform ledger)
  | swap first second rest =>
      have both := List.rel_of_pairwise_cons independent (List.mem_cons_self (a := first))
      exact congrArg (fun ledger => Ledger.after ledger rest) (Step.perform_comm both ledger)
  | trans order _ inductionHypothesis laterHypothesis =>
      have still : List.Pairwise Step.Independent _ :=
        (order.pairwise_iff (fun {_ _} => Step.Independent.symm)).1 independent
      exact (inductionHypothesis independent ledger).trans (laterHypothesis still ledger)

end Ledger

end Gradebook
