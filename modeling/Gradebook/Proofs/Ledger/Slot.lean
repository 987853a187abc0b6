import Gradebook.Proofs.Ledger.Addition

namespace Gradebook

/-!
# A ledger cell by cell

The two entries of a cell stand in two dictionaries of one notebook.  Together they are the
slot of the cell.  Beside the slots a ledger holds only which notebooks there are and what is
carried along with each of them, so two ledgers that agree in this are equal.

Every step has one law in these terms.  It replaces the slot of one cell by a function of this
slot, it may open the notebook of this cell, and what its caller is told depends on this slot
as well.  Nothing here depends on the order of the steps or on how a ledger came about, and no
proof that goes by slots has to look into the dictionaries.
-/

namespace Field

variable {α : Type}

/-- A member after it has been written, if there is a value for it. -/
def updated (field : Field α) : Option α → Field α
  | some a => .value a
  | none => field

/-- Two values of which only one is there can be written in either order. -/
theorem updated_comm {first second : Option α} (one : first = none ∨ second = none)
    (field : Field α) :
    (field.updated first).updated second = (field.updated second).updated first := by
  rcases one with rfl | rfl <;> rfl

end Field

theorem Number.ofFloat?_of_finite {x : Float} (finite : x.isFinite = true) :
    Number.ofFloat? x = some (.double x finite) :=
  dif_pos finite

namespace Ledger

/-! ## Slots -/

/-- The entries of a cell. -/
structure Slot where
  grade : Option GradeEntry
  comment : Option CommentEntry

end Ledger

/-- The entries of a cell of a notebook. -/
def NotebookGrades.slot (grades : NotebookGrades) (cell : String) : Ledger.Slot :=
  ⟨grades.grades.get? cell, grades.comments.get? cell⟩

namespace Ledger

/-- The entries of a cell.  In a notebook that is missing there are none. -/
def slot (ledger : Ledger) (notebook cell : String) : Slot :=
  ((ledger.notebooks.get? notebook).getD .empty).slot cell

/-- What stands beside the entries of the cells of a notebook, if there is this notebook. -/
def beside (ledger : Ledger) (notebook : String) : Option (Extra notebookFields) :=
  (ledger.notebooks.get? notebook).map NotebookGrades.extra

variable {ledger next : Ledger} {notebook cell otherNotebook otherCell : String}

theorem slot_of_get? {grades : NotebookGrades}
    (held : ledger.notebooks.get? notebook = some grades) (cell : String) :
    ledger.slot notebook cell = grades.slot cell := by
  rw [slot, held, Option.getD_some]

theorem slot_of_missing (missing : ledger.notebooks.get? notebook = none) (cell : String) :
    ledger.slot notebook cell = ⟨none, none⟩ := by
  rw [slot, missing, Option.getD_none]
  rfl

/-- A ledger is what it holds of each cell and beside them. -/
theorem ext_slots {left right : Ledger}
    (slots : ∀ notebook cell, left.slot notebook cell = right.slot notebook cell)
    (beside : ∀ notebook, left.beside notebook = right.beside notebook) : left = right := by
  rcases left with ⟨left⟩
  rcases right with ⟨right⟩
  congr 1
  ext1 notebook
  have carried := beside notebook
  have entries := slots notebook
  simp only [Ledger.beside, slot] at carried entries
  cases held : left.get? notebook with
  | none =>
      rw [held, Option.map_none] at carried
      exact (Option.map_eq_none_iff.1 carried.symm).symm
  | some grades =>
      rw [held, Option.map_some] at carried
      rcases Option.map_eq_some_iff.1 carried.symm with ⟨others, heldOthers, extra⟩
      rw [held, heldOthers, Option.getD_some, Option.getD_some] at entries
      rw [heldOthers]
      rcases grades with ⟨grades, comments, kept⟩
      rcases others with ⟨otherGrades, otherComments, otherKept⟩
      have sameGrades : grades = otherGrades :=
        Dict.ext fun cell => congrArg Slot.grade (entries cell)
      have sameComments : comments = otherComments :=
        Dict.ext fun cell => congrArg Slot.comment (entries cell)
      have sameExtra : otherKept = kept := extra
      rw [sameGrades, sameComments, sameExtra]

/-! ## What is found for a cell -/

section Found

variable {α : Type}

/-- Why there is no entry of a cell: the notebook is missing, or it has none. -/
def absence (ledger : Ledger) (notebook cell : String) : LedgerError :=
  .missing notebook (if notebook ∈ ledger.notebookNames then some cell else none)

/-- What is read of a cell, or why there is nothing to read. -/
def found (ledger : Ledger) (notebook cell : String) : Option α → Except LedgerError α
  | some a => .ok a
  | none => .error (ledger.absence notebook cell)

theorem found_bind {β : Type} (ledger : Ledger) (notebook cell : String) (field : α → β)
    (entry : Option α) :
    (ledger.found notebook cell entry >>= fun a => pure (field a)) =
      ledger.found notebook cell (entry.map field) := by
  cases entry <;> rfl

theorem isOk_found (ledger : Ledger) (notebook cell : String) (entry : Option α) :
    (ledger.found notebook cell entry).isOk = entry.isSome := by
  cases entry <;> rfl

/-- An entry is looked for in its notebook, and the notebook first. -/
theorem lookup_eq_found (ledger : Ledger) (notebook cell : String)
    (pick : NotebookGrades → Option α) :
    (do
      let grades ← ledger.notebook notebook
      match pick grades with
      | some entry => return entry
      | none => throw (LedgerError.missing notebook (some cell))) =
      ledger.found notebook cell ((ledger.notebooks.get? notebook).bind pick) := by
  rw [Ledger.notebook]
  cases held : ledger.notebooks.get? notebook with
  | none =>
      have unlisted : notebook ∉ ledger.notebookNames := Dict.get?_eq_none_iff.1 held
      rw [Option.bind_none, found, absence, if_neg unlisted]
      rfl
  | some grades =>
      have listed : notebook ∈ ledger.notebookNames := Dict.mem_keys_of_get? held
      rw [Outcome.ok_bind, Option.bind_some]
      cases pick grades with
      | none =>
          rw [found, absence, if_pos listed]
          rfl
      | some entry => rfl

theorem grade_eq_found (ledger : Ledger) (notebook cell : String) :
    ledger.grade notebook cell =
      ledger.found notebook cell (ledger.slot notebook cell).grade := by
  have same : (ledger.slot notebook cell).grade =
      (ledger.notebooks.get? notebook).bind fun grades => grades.grades.get? cell := by
    rw [slot]
    cases ledger.notebooks.get? notebook <;> rfl
  rw [same, ← lookup_eq_found, grade]
  congr 1
  funext grades
  cases grades.grades.get? cell <;> rfl

theorem commentEntry_eq_found (ledger : Ledger) (notebook cell : String) :
    ledger.commentEntry notebook cell =
      ledger.found notebook cell (ledger.slot notebook cell).comment := by
  have same : (ledger.slot notebook cell).comment =
      (ledger.notebooks.get? notebook).bind fun grades => grades.comments.get? cell := by
    rw [slot]
    cases ledger.notebooks.get? notebook <;> rfl
  rw [same, ← lookup_eq_found, commentEntry]
  congr 1
  funext grades
  cases grades.comments.get? cell <;> rfl

theorem isSome_grade_slot (ledger : Ledger) (notebook cell : String) :
    (ledger.slot notebook cell).grade.isSome = ledger.contains notebook cell := by
  rw [slot, contains]
  cases ledger.notebooks.get? notebook <;> rfl

end Found

/-! ## The value of a setter -/

/-- What can be set of a cell. -/
inductive CellField
  | manualScore
  | extraCredit
  | needsManualGrade
  | comment
deriving DecidableEq

namespace Setting

/-- The field that a setter writes. -/
def field : Setting → CellField
  | .manualScore _ | .manualScoreChecked _ _ => .manualScore
  | .extraCredit _ | .extraCreditChecked _ => .extraCredit
  | .needsManualGrade _ => .needsManualGrade
  | .comment _ => .comment

/-- The manual score that is set. -/
def manualScore? : Setting → Option Float
  | .manualScore score | .manualScoreChecked score _ => some score
  | _ => none

/-- The extra credit that is set. -/
def extraCredit? : Setting → Option Float
  | .extraCredit amount | .extraCreditChecked amount => some amount
  | _ => none

/-- Whether the cell waits for a grader, if that is set. -/
def needsManualGrade? : Setting → Option Bool
  | .needsManualGrade flag => some flag
  | _ => none

/-- The comment that is set. -/
def comment? : Setting → Option String
  | .comment text => some text
  | _ => none

/-- A setter has no value for any other field. -/
structure LeavesOthers (setting : Setting) : Prop where
  manualScore : setting.field ≠ .manualScore → setting.manualScore? = none
  extraCredit : setting.field ≠ .extraCredit → setting.extraCredit? = none
  needsManualGrade : setting.field ≠ .needsManualGrade → setting.needsManualGrade? = none
  comment : setting.field ≠ .comment → setting.comment? = none

theorem leavesOthers (setting : Setting) : setting.LeavesOthers := by
  cases setting with
  | manualScore score => exact ⟨absurd rfl, fun _ => rfl, fun _ => rfl, fun _ => rfl⟩
  | manualScoreChecked score points =>
      exact ⟨absurd rfl, fun _ => rfl, fun _ => rfl, fun _ => rfl⟩
  | extraCredit amount => exact ⟨fun _ => rfl, absurd rfl, fun _ => rfl, fun _ => rfl⟩
  | extraCreditChecked amount => exact ⟨fun _ => rfl, absurd rfl, fun _ => rfl, fun _ => rfl⟩
  | needsManualGrade flag => exact ⟨fun _ => rfl, fun _ => rfl, absurd rfl, fun _ => rfl⟩
  | comment text => exact ⟨fun _ => rfl, fun _ => rfl, fun _ => rfl, absurd rfl⟩

/-- A setter that has a value for some other field does not write a comment. -/
theorem comment?_eq_none {α : Type} {setting : Setting} {value? : Setting → Option α}
    {field : CellField} (leaves : setting.field ≠ field → value? setting = none)
    (other : field ≠ .comment) (valued : (value? setting).isSome = true) :
    setting.comment? = none := by
  have here : setting.field = field := by
    by_contra differs
    rw [leaves differs] at valued
    cases valued
  exact setting.leavesOthers.comment (here ▸ other)

/-- What becomes of a grade entry. -/
def changeGrade (setting : Setting) (entry : GradeEntry) : GradeEntry where
  manualScore := entry.manualScore.updated (setting.manualScore?.bind Number.ofFloat?)
  autoScore := entry.autoScore
  extraCredit := entry.extraCredit.updated (setting.extraCredit?.bind Number.ofFloat?)
  needsManualGrade := entry.needsManualGrade.updated setting.needsManualGrade?
  extra := entry.extra

/-- What becomes of a comment entry. -/
def changeComment (setting : Setting) (entry : CommentEntry) : CommentEntry where
  manualComment := entry.manualComment.updated setting.comment?
  extra := entry.extra

/-- Whether the entry is there that is written to. -/
def finds (setting : Setting) (slot : Slot) : Bool :=
  match setting.comment? with
  | some _ => slot.comment.isSome
  | none => slot.grade.isSome

/-- A setter whose value has been taken. -/
def store (ledger : Ledger) (notebook cell : String) (setting : Setting) :
    Except LedgerError Ledger :=
  match setting.comment? with
  | some _ => ledger.modifyComment notebook cell setting.changeComment
  | none => ledger.modifyGrade notebook cell setting.changeGrade

theorem changeGrade_of_comment? {setting : Setting} {text : String}
    (commenting : setting.comment? = some text) (entry : GradeEntry) :
    setting.changeGrade entry = entry := by
  cases setting with
  | comment text => rfl
  | manualScore score | manualScoreChecked score points | extraCredit amount
  | extraCreditChecked amount | needsManualGrade flag => cases commenting

theorem changeComment_of_comment? {setting : Setting} (grading : setting.comment? = none)
    (entry : CommentEntry) : setting.changeComment entry = entry := by
  rw [changeComment, grading]
  rfl

theorem setManualScore_of_finite {score : Float} (finite : score.isFinite = true) :
    ledger.setManualScore notebook cell score =
      (Setting.manualScore score).store ledger notebook cell := by
  rw [setManualScore, finite_eq_ok_iff.2 ⟨finite, rfl⟩, Outcome.ok_bind]
  apply congrArg (ledger.modifyGrade notebook cell)
  funext entry
  rw [changeGrade, manualScore?, Option.bind_some, Number.ofFloat?_of_finite finite]
  rfl

theorem setExtraCredit_of_finite {amount : Float} (finite : amount.isFinite = true) :
    ledger.setExtraCredit notebook cell amount =
      (Setting.extraCredit amount).store ledger notebook cell := by
  rw [setExtraCredit, finite_eq_ok_iff.2 ⟨finite, rfl⟩, Outcome.ok_bind]
  apply congrArg (ledger.modifyGrade notebook cell)
  funext entry
  rw [changeGrade, extraCredit?, Option.bind_some, Number.ofFloat?_of_finite finite]
  rfl

/-- A score or an amount that is taken is finite. -/
theorem isFinite_of_check {setting : Setting} (taken : setting.check = .ok ()) {x : Float}
    (given : setting.manualScore? = some x ∨ setting.extraCredit? = some x) :
    x.isFinite = true := by
  have finite : ∀ {y : Float}, (if y.isFinite then .ok () else .error .notFinite :
      Except ScoreError Unit) = .ok () → y.isFinite = true := by
    intro y taken
    split_ifs at taken with finite
    exact finite
  cases setting with
  | manualScore score =>
      rcases given with ⟨⟨⟩⟩ | ⟨⟨⟩⟩
      exact finite taken
  | manualScoreChecked score points =>
      rcases given with ⟨⟨⟩⟩ | ⟨⟨⟩⟩
      exact (Score.check_eq_ok_iff.1 taken).1
  | extraCredit amount =>
      rcases given with ⟨⟨⟩⟩ | ⟨⟨⟩⟩
      exact finite taken
  | extraCreditChecked amount =>
      rcases given with ⟨⟨⟩⟩ | ⟨⟨⟩⟩
      exact (Score.checkExtra_eq_ok_iff.1 taken).1
  | needsManualGrade flag => exact given.elim nofun nofun
  | comment text => exact given.elim nofun nofun

/-- The value is looked at, and then it is stored. -/
theorem apply_of_check {setting : Setting} (taken : setting.check = .ok ()) :
    setting.apply ledger notebook cell = setting.store ledger notebook cell := by
  cases setting with
  | manualScore score => exact setManualScore_of_finite (isFinite_of_check taken (.inl rfl))
  | manualScoreChecked score points =>
      have passed : Score.check score points = .ok () := taken
      rw [apply, setManualScoreChecked, passed]
      exact setManualScore_of_finite (isFinite_of_check taken (.inl rfl))
  | extraCredit amount => exact setExtraCredit_of_finite (isFinite_of_check taken (.inr rfl))
  | extraCreditChecked amount =>
      have passed : Score.checkExtra amount = .ok () := taken
      rw [apply, setExtraCreditChecked, passed]
      exact setExtraCredit_of_finite (isFinite_of_check taken (.inr rfl))
  | needsManualGrade flag => rfl
  | comment text => rfl

end Setting

/-! ## What a step makes of a slot -/

namespace Slot

/-- The slot after a value has been stored that was taken. -/
def put (slot : Slot) (setting : Setting) : Slot :=
  ⟨slot.grade.map setting.changeGrade, slot.comment.map setting.changeComment⟩

/-- The slot after its entries have been made sure of. -/
def ensure (slot : Slot) (tool : Tool) : Slot :=
  ⟨some (slot.grade.getD (.initial tool)), some (slot.comment.getD .initial)⟩

/-- Where the entry is missing nothing can be written. -/
theorem put_of_not_finds {slot : Slot} {setting : Setting}
    (missing : setting.finds slot = false) : slot.put setting = slot := by
  rcases slot with ⟨grade, comment⟩
  unfold Setting.finds at missing
  split at missing
  · next commenting =>
    have absent : comment = none := Option.not_isSome_iff_eq_none.1 (Bool.eq_false_iff.1 missing)
    rw [put, absent, funext (Setting.changeGrade_of_comment? commenting)]
    simp only [Option.map_id', Option.map_none]
  · next grading =>
    have absent : grade = none := Option.not_isSome_iff_eq_none.1 (Bool.eq_false_iff.1 missing)
    rw [put, absent, funext (Setting.changeComment_of_comment? grading)]
    simp only [Option.map_id', Option.map_none]

end Slot

/-- The notebook and the cell of a step. -/
def Step.place : Step → String × String
  | .set notebook cell _ => (notebook, cell)
  | .ensureEntry notebook cell _ => (notebook, cell)

/-- What a step makes of the slot of its cell. -/
def Step.effect (slot : Slot) : Step → Slot
  | .set _ _ setting =>
    match setting.check with
    | .ok _ => slot.put setting
    | .error _ => slot
  | .ensureEntry _ _ tool => slot.ensure tool

/-- What a step makes of what stands beside the entries of a notebook: it may open the
notebook. -/
def Step.opened (notebook : String) (beside : Option (Extra notebookFields)) :
    Step → Option (Extra notebookFields)
  | .set _ _ _ => beside
  | .ensureEntry other _ _ => if notebook = other then some (beside.getD .empty) else beside

/-- What the caller of a step is told: whether a value has been stored, or whether a grade
entry has been created. -/
def Step.answer (ledger : Ledger) : Step → Bool
  | .set notebook cell setting => (setting.apply ledger notebook cell).isOk
  | .ensureEntry notebook cell tool => (ledger.ensureEntry notebook cell tool).1

/-- What the caller of a step is told by the slot of its cell. -/
def Step.told (slot : Slot) : Step → Bool
  | .set _ _ setting => setting.check.isOk && setting.finds slot
  | .ensureEntry _ _ _ => slot.grade.isNone

/-! ## The laws of the steps -/

theorem slot_modify (change : NotebookGrades → NotebookGrades) (effect : Slot → Slot)
    (nothing : effect ⟨none, none⟩ = ⟨none, none⟩)
    (here : ∀ grades : NotebookGrades, (change grades).slot cell = effect (grades.slot cell))
    (elsewhere : ∀ (grades : NotebookGrades) (other : String), other ≠ cell →
      (change grades).slot other = grades.slot other) (otherNotebook otherCell : String) :
    slot ⟨ledger.notebooks.modify notebook change⟩ otherNotebook otherCell =
      if (otherNotebook, otherCell) = (notebook, cell) then
        effect (ledger.slot otherNotebook otherCell)
      else ledger.slot otherNotebook otherCell := by
  simp only [slot, Dict.get?_modify, Prod.mk.injEq]
  cases ledger.notebooks.get? otherNotebook with
  | none =>
      rw [Option.map_none, Option.getD_none]
      split_ifs
      · exact nothing.symm
      · rfl
  | some grades =>
      rw [Option.map_some, Option.getD_some, Option.getD_some]
      by_cases same : otherNotebook = notebook
      · by_cases sameCell : otherCell = cell
        · rw [if_pos same, if_pos ⟨same, sameCell⟩, sameCell, here]
        · rw [if_pos same, if_neg fun both => sameCell both.2, elsewhere grades _ sameCell]
      · rw [if_neg same, if_neg fun both => same both.1]

theorem beside_modify (change : NotebookGrades → NotebookGrades)
    (keeps : ∀ grades, (change grades).extra = grades.extra) (otherNotebook : String) :
    beside ⟨ledger.notebooks.modify notebook change⟩ otherNotebook =
      ledger.beside otherNotebook := by
  simp only [beside, Dict.get?_modify, Option.map_map]
  congr 1
  funext grades
  rw [Function.comp_apply]
  split_ifs
  · exact keeps grades
  · rfl

namespace Setting

variable {setting : Setting}

/-- A value that has been taken is stored just where its entry is found. -/
theorem exists_store_iff :
    (∃ next, setting.store ledger notebook cell = .ok next) ↔
      setting.finds (ledger.slot notebook cell) = true := by
  unfold store finds
  cases setting.comment? with
  | some text =>
      simp only [modifyComment_eq_ok_iff, exists_and_left, exists_eq', and_true,
        ← Outcome.isOk_iff_exists, commentEntry_eq_found, isOk_found]
  | none =>
      simp only [modifyGrade_eq_ok_iff, exists_and_left, exists_eq', and_true,
        ← Outcome.isOk_iff_exists, grade_eq_found, isOk_found]

theorem slot_of_store (stored : setting.store ledger notebook cell = .ok next)
    (otherNotebook otherCell : String) :
    next.slot otherNotebook otherCell =
      if (otherNotebook, otherCell) = (notebook, cell) then
        (ledger.slot otherNotebook otherCell).put setting
      else ledger.slot otherNotebook otherCell := by
  unfold store at stored
  cases commenting : setting.comment? with
  | some text =>
      rw [commenting] at stored
      rcases modifyComment_eq_ok_iff.1 stored with ⟨_, rfl⟩
      apply slot_modify _ (fun slot => slot.put setting) rfl
      · intro grades
        simp only [NotebookGrades.slot, Slot.put, Dict.get?_modify_self,
          funext (changeGrade_of_comment? commenting), Option.map_id']
      · intro grades other differs
        simp only [NotebookGrades.slot, Dict.get?_modify_of_ne _ _ differs]
  | none =>
      rw [commenting] at stored
      rcases modifyGrade_eq_ok_iff.1 stored with ⟨_, rfl⟩
      apply slot_modify _ (fun slot => slot.put setting) rfl
      · intro grades
        simp only [NotebookGrades.slot, Slot.put, Dict.get?_modify_self,
          funext (changeComment_of_comment? commenting), Option.map_id']
      · intro grades other differs
        simp only [NotebookGrades.slot, Dict.get?_modify_of_ne _ _ differs]

theorem beside_of_store (stored : setting.store ledger notebook cell = .ok next)
    (otherNotebook : String) : next.beside otherNotebook = ledger.beside otherNotebook := by
  unfold store at stored
  split at stored
  · rcases modifyComment_eq_ok_iff.1 stored with ⟨_, rfl⟩
    exact beside_modify _ (by exact fun _ => rfl) otherNotebook
  · rcases modifyGrade_eq_ok_iff.1 stored with ⟨_, rfl⟩
    exact beside_modify _ (by exact fun _ => rfl) otherNotebook

end Setting

end Ledger

theorem NotebookGrades.slot_ensureEntry (grades : NotebookGrades) (cell : String) (tool : Tool)
    (other : String) :
    (grades.ensureEntry cell tool).slot other =
      if other = cell then (grades.slot other).ensure tool else grades.slot other := by
  simp only [slot, ensureEntry, Dict.get?_insert_of_missing]
  split_ifs <;> rfl

namespace Ledger

variable {ledger : Ledger}

/-- Making sure of a cell opens its notebook if that is missing. -/
theorem slot_ensureEntry (ledger : Ledger) (notebook cell : String) (tool : Tool)
    (otherNotebook otherCell : String) :
    (ledger.ensureEntry notebook cell tool).2.slot otherNotebook otherCell =
      if (otherNotebook, otherCell) = (notebook, cell) then
        (ledger.slot otherNotebook otherCell).ensure tool
      else ledger.slot otherNotebook otherCell := by
  simp only [slot, ensureEntry, Dict.get?_insert, Prod.mk.injEq]
  by_cases same : otherNotebook = notebook
  · rw [if_pos same, Option.getD_some, NotebookGrades.slot_ensureEntry, same]
    simp only [true_and]
  · rw [if_neg same, if_neg fun both => same both.1]

theorem beside_ensureEntry (ledger : Ledger) (notebook cell : String) (tool : Tool)
    (otherNotebook : String) :
    (ledger.ensureEntry notebook cell tool).2.beside otherNotebook =
      if otherNotebook = notebook then some ((ledger.beside otherNotebook).getD .empty)
      else ledger.beside otherNotebook := by
  simp only [beside, ensureEntry, Dict.get?_insert]
  split_ifs with same
  · subst same
    cases ledger.notebooks.get? otherNotebook <;> rfl
  · rfl

namespace Step

/-- A step changes the slot of its cell. -/
theorem slot_perform (step : Step) (ledger : Ledger) (notebook cell : String) :
    (step.perform ledger).slot notebook cell =
      if (notebook, cell) = step.place then step.effect (ledger.slot notebook cell)
      else ledger.slot notebook cell := by
  cases step with
  | ensureEntry target targetCell tool =>
      exact slot_ensureEntry ledger target targetCell tool notebook cell
  | set target targetCell setting =>
      simp only [perform, effect, place]
      cases checked : setting.check with
      | error failure =>
          rw [Setting.apply_of_check_error checked]
          exact (ite_self _).symm
      | ok _ =>
          rw [Setting.apply_of_check checked]
          cases stored : setting.store ledger target targetCell with
          | ok next => exact Setting.slot_of_store stored notebook cell
          | error failure =>
              change ledger.slot notebook cell =
                if (notebook, cell) = (target, targetCell) then
                  (ledger.slot notebook cell).put setting
                else ledger.slot notebook cell
              split_ifs with here
              · cases here
                refine (Slot.put_of_not_finds (Bool.eq_false_iff.2 fun finds => ?_)).symm
                rcases Setting.exists_store_iff.2 finds with ⟨next, succeeded⟩
                cases stored.symm.trans succeeded
              · rfl

theorem slot_perform_of_eq {step : Step} {notebook cell : String}
    (here : (notebook, cell) = step.place) (ledger : Ledger) :
    (step.perform ledger).slot notebook cell = step.effect (ledger.slot notebook cell) := by
  rw [slot_perform, if_pos here]

theorem slot_perform_of_ne {step : Step} {notebook cell : String}
    (elsewhere : (notebook, cell) ≠ step.place) (ledger : Ledger) :
    (step.perform ledger).slot notebook cell = ledger.slot notebook cell := by
  rw [slot_perform, if_neg elsewhere]

/-- A step leaves alone what stands beside the entries, but for a notebook that it opens. -/
theorem beside_perform (step : Step) (ledger : Ledger) (notebook : String) :
    (step.perform ledger).beside notebook = step.opened notebook (ledger.beside notebook) := by
  cases step with
  | ensureEntry target targetCell tool =>
      exact beside_ensureEntry ledger target targetCell tool notebook
  | set target targetCell setting =>
      rw [opened, perform]
      split
      · next next applied =>
        cases checked : setting.check with
        | error failure => cases (Setting.apply_of_check_error checked).symm.trans applied
        | ok _ =>
            rw [Setting.apply_of_check checked] at applied
            exact Setting.beside_of_store applied notebook
      · rfl

/-- What a step answers depends on the slot of its cell. -/
theorem answer_eq (step : Step) (ledger : Ledger) :
    step.answer ledger = step.told (ledger.slot step.place.1 step.place.2) := by
  cases step with
  | ensureEntry notebook cell tool =>
      rw [told, place, ← Option.not_isSome, isSome_grade_slot]
      rfl
  | set notebook cell setting =>
      rw [answer, told]
      cases checked : setting.check with
      | error failure =>
          rw [Setting.apply_of_check_error checked]
          rfl
      | ok _ =>
          rw [Setting.apply_of_check checked, Bool.eq_iff_iff, Outcome.isOk_iff_exists,
            Setting.exists_store_iff]
          rfl

end Step

end Ledger

end Gradebook
