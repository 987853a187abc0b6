import Gradebook.Proofs.Ledger.Setter
import Gradebook.Proofs.Ledger.Slot

namespace Gradebook

/-!
# The fields of a cell

A getter reads one field of one entry of its cell.  What there is to know about a field is how
it is read, which value a setter gives it, and which value it has in a new entry.  A view of
the cells is a field with the three laws that join these: a new entry is read at its initial
value, a value that is stored is the one that is read, and the setters of the field look for
the entry that it is read from.

There are six views, one for each getter.  Two of them no setter writes.
-/

namespace Field

variable {α : Type}

theorem get?_updated (field : Field α) (value : Option α) :
    (field.updated value).get? = value.or field.get? := by
  cases value <;> rfl

end Field

/-- What is stored for a finite double is read as this double. -/
theorem Number.map_toFloat_bind_ofFloat? {value : Option Float}
    (finite : ∀ x, value = some x → x.isFinite = true) :
    (value.bind ofFloat?).map toFloat = value := by
  cases value with
  | none => rfl
  | some x =>
      rw [Option.bind_some, ofFloat?_of_finite (finite x rfl)]
      rfl

namespace Ledger

variable {α : Type} {ledger : Ledger} {notebook cell : String}

/-! ## Views -/

/-- A field of the cells: how it is read, which value a setter gives it, and which value it
has in a new entry. -/
structure View (α : Type) where
  read : Slot → Option α
  value? : Setting → Option α
  initial : Tool → α
  read_ensure : ∀ slot tool, read (slot.ensure tool) = some ((read slot).getD (initial tool))
  read_put : ∀ slot setting, setting.check = .ok () →
    read (slot.put setting) = (read slot).map (value? setting).getD
  finds_eq : ∀ slot setting, (value? setting).isSome = true →
    setting.finds slot = (read slot).isSome

namespace View

/-- A setter that is about a field stores its value where it succeeds.  Any other setter, and
one that fails, leaves what is read. -/
theorem read_effect_set (view : View α) (notebook cell : String) (setting : Setting)
    (slot : Slot) :
    view.read (Step.effect slot (.set notebook cell setting)) =
      if Step.told slot (.set notebook cell setting) = true then
        (view.value? setting).or (view.read slot)
      else view.read slot := by
  cases taken : setting.check with
  | error failure =>
      simp only [Step.effect, Step.told, taken]
      rfl
  | ok _ =>
      simp only [Step.effect, Step.told, taken]
      cases finds : setting.finds slot with
      | false =>
          rw [Slot.put_of_not_finds finds]
          rfl
      | true =>
          change view.read (slot.put setting) = (view.value? setting).or (view.read slot)
          rw [view.read_put slot setting taken]
          cases value : view.value? setting with
          | none => exact Option.map_id'
          | some a =>
              -- the setter has found its entry, so there is a value for the new one to replace
              have present : (view.read slot).isSome = true := by
                rw [← view.finds_eq slot setting (by rw [value, Option.isSome_some]), finds]
              rcases Option.isSome_iff_exists.1 present with ⟨before, reads⟩
              rw [reads]
              rfl

/-- A field of grade entries. -/
def ofGrade (field : GradeEntry → α) (value? : Setting → Option α)
    (grading : ∀ setting, (value? setting).isSome = true → setting.comment? = none)
    (change : ∀ setting entry, setting.check = .ok () →
      field (setting.changeGrade entry) = (value? setting).getD (field entry)) : View α where
  read slot := slot.grade.map field
  value? := value?
  initial tool := field (.initial tool)
  read_ensure slot tool := by
    rw [Slot.ensure]
    cases slot.grade <;> rfl
  read_put slot setting taken := by
    rw [Slot.put, Option.map_map, Option.map_map]
    exact congrArg (slot.grade.map ·) (funext fun entry => change setting entry taken)
  finds_eq slot setting valued := by
    rw [Setting.finds, grading setting valued, Option.isSome_map]

/-- A field that no setter writes. -/
def kept (field : GradeEntry → α)
    (keeps : ∀ (setting : Setting) (entry : GradeEntry),
      field (setting.changeGrade entry) = field entry) : View α :=
  .ofGrade field (fun _ => none) (fun _ valued => absurd valued Bool.false_ne_true)
    fun setting entry _ => keeps setting entry

/-- The manual score of a cell. -/
def manualScore : View (Option Float) :=
  .ofGrade (fun entry => entry.manualScore.get?.map Number.toFloat)
    (fun setting => setting.manualScore?.map some)
    (fun setting valued => Setting.comment?_eq_none setting.leavesOthers.manualScore
      (by decide) (Option.isSome_map.symm.trans valued))
    fun setting entry taken => by
      have stored := Number.map_toFloat_bind_ofFloat? fun x (set : setting.manualScore? = some x) =>
        Setting.isFinite_of_check taken (.inl set)
      rw [Setting.changeGrade, Field.get?_updated, Option.map_or, stored]
      cases setting.manualScore? <;> rfl

/-- The extra credit of a cell. -/
def extraCredit : View Float :=
  .ofGrade (fun entry => (entry.extraCredit.get?.map Number.toFloat).getD 0)
    Setting.extraCredit?
    (fun setting => Setting.comment?_eq_none setting.leavesOthers.extraCredit (by decide))
    fun setting entry taken => by
      have stored := Number.map_toFloat_bind_ofFloat? fun x (set : setting.extraCredit? = some x) =>
        Setting.isFinite_of_check taken (.inr set)
      rw [Setting.changeGrade, Field.get?_updated, Option.map_or, stored]
      cases setting.extraCredit? <;> rfl

/-- Whether a cell waits for a grader. -/
def needsManualGrade : View Bool :=
  .ofGrade (fun entry => entry.needsManualGrade.get?.getD false) Setting.needsManualGrade?
    (fun setting => Setting.comment?_eq_none setting.leavesOthers.needsManualGrade (by decide))
    fun setting entry _ => by
      rw [Setting.changeGrade, Field.get?_updated]
      cases setting.needsManualGrade? <;> rfl

/-- The automatic score of a cell. -/
def autoScore : View (Option Float) :=
  .kept (fun entry => entry.autoScore.get?.map Number.toFloat) fun _ _ => rfl

/-- The point budget of a cell. -/
def maxScore : View (Option Float) :=
  .kept GradeEntry.maxScore? fun _ _ => rfl

/-- The comment of a cell. -/
def comment : View String where
  read slot := slot.comment.map fun entry => entry.manualComment.get?.getD ""
  value? := Setting.comment?
  initial _ := ""
  read_ensure slot tool := by
    rw [Slot.ensure]
    cases slot.comment <;> rfl
  read_put slot setting _ := by
    rw [Slot.put, Option.map_map, Option.map_map]
    congr 1
    funext entry
    rw [Function.comp_apply, Function.comp_apply, Setting.changeComment, Field.get?_updated]
    cases setting.comment? <;> rfl
  finds_eq slot setting valued := by
    rcases Option.isSome_iff_exists.1 valued with ⟨text, commenting⟩
    rw [Setting.finds, commenting, Option.isSome_map]

end View

/-! ## What getters give -/

/-- What a view gives of a cell. -/
def get (ledger : Ledger) (view : View α) (notebook cell : String) : Except LedgerError α :=
  ledger.found notebook cell (view.read (ledger.slot notebook cell))

/-- A getter of a field of grade entries. -/
theorem grade_bind_eq_found (ledger : Ledger) (notebook cell : String) (field : GradeEntry → α) :
    (ledger.grade notebook cell >>= fun entry => pure (field entry)) =
      ledger.found notebook cell ((ledger.slot notebook cell).grade.map field) := by
  rw [grade_eq_found, found_bind]

theorem manualScore_eq_get (ledger : Ledger) (notebook cell : String) :
    ledger.manualScore notebook cell = ledger.get .manualScore notebook cell :=
  grade_bind_eq_found ledger notebook cell _

theorem extraCredit_eq_get (ledger : Ledger) (notebook cell : String) :
    ledger.extraCredit notebook cell = ledger.get .extraCredit notebook cell :=
  grade_bind_eq_found ledger notebook cell _

theorem needsManualGrade_eq_get (ledger : Ledger) (notebook cell : String) :
    ledger.needsManualGrade notebook cell = ledger.get .needsManualGrade notebook cell :=
  grade_bind_eq_found ledger notebook cell _

theorem autoScore_eq_get (ledger : Ledger) (notebook cell : String) :
    ledger.autoScore notebook cell = ledger.get .autoScore notebook cell :=
  grade_bind_eq_found ledger notebook cell _

theorem maxScore_eq_get (ledger : Ledger) (notebook cell : String) :
    ledger.maxScore notebook cell = ledger.get .maxScore notebook cell :=
  grade_bind_eq_found ledger notebook cell _

theorem comment_eq_get (ledger : Ledger) (notebook cell : String) :
    ledger.comment notebook cell = ledger.get .comment notebook cell := by
  rw [Ledger.comment, commentEntry_eq_found, found_bind]
  rfl

end Ledger

end Gradebook
