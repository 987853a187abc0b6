import Gradebook.Proofs.Ledger.Ensured
import Gradebook.Proofs.Score

namespace Gradebook

namespace Ledger

/-!
# The record of a cell

What graders see of a cell is its record.  Here it is said what every operation
does to the records of a ledger: a setter that succeeds writes one field of the
record of its cell, and leaves the records of all other cells alone; a new entry
leaves every record alone that could be taken before.

A setter looks at its value first.  With a value that it takes, it fails only
where the cell has no entry.
-/

variable {ledger next : Ledger} {notebook cell otherNotebook otherCell : String}

/-! ## Entries -/

theorem notebook_eq_ok_iff {grades : NotebookGrades} :
    ledger.notebook notebook = .ok grades ↔ ledger.notebooks.get? notebook = some grades := by
  unfold Ledger.notebook
  cases ledger.notebooks.get? notebook with
  | none => exact iff_of_false nofun nofun
  | some found => rw [Except.ok.injEq, Option.some.injEq]

theorem grade_eq_ok_iff {entry : GradeEntry} :
    ledger.grade notebook cell = .ok entry ↔
      ∃ grades, ledger.notebooks.get? notebook = some grades ∧
        grades.grades.get? cell = some entry := by
  simp only [grade, Outcome.bind_eq_ok, notebook_eq_ok_iff]
  refine exists_congr fun grades => and_congr_right fun _ => ?_
  cases grades.grades.get? cell with
  | none => exact iff_of_false Outcome.throw_ne_ok (Option.some_ne_none entry).symm
  | some found => rw [Outcome.pure_eq_ok, Option.some.injEq]

theorem commentEntry_eq_ok_iff {entry : CommentEntry} :
    ledger.commentEntry notebook cell = .ok entry ↔
      ∃ grades, ledger.notebooks.get? notebook = some grades ∧
        grades.comments.get? cell = some entry := by
  simp only [commentEntry, Outcome.bind_eq_ok, notebook_eq_ok_iff]
  refine exists_congr fun grades => and_congr_right fun _ => ?_
  cases grades.comments.get? cell with
  | none => exact iff_of_false Outcome.throw_ne_ok (Option.some_ne_none entry).symm
  | some found => rw [Outcome.pure_eq_ok, Option.some.injEq]

theorem cellIds_eq_ok_iff {cells : List String} : ledger.cellIds notebook = .ok cells ↔
    ∃ grades, ledger.notebooks.get? notebook = some grades ∧ grades.grades.keys = cells := by
  simp only [cellIds, Outcome.bind_eq_ok, notebook_eq_ok_iff, Outcome.pure_eq_ok]

theorem modifyGrade_eq_ok_iff {change : GradeEntry → GradeEntry} :
    ledger.modifyGrade notebook cell change = .ok next ↔
      (∃ entry, ledger.grade notebook cell = .ok entry) ∧
        ⟨ledger.notebooks.modify notebook fun grades =>
          { grades with grades := grades.grades.modify cell change }⟩ = next := by
  simp only [modifyGrade, Outcome.bind_eq_ok, Outcome.pure_eq_ok, exists_and_right]

theorem modifyComment_eq_ok_iff {change : CommentEntry → CommentEntry} :
    ledger.modifyComment notebook cell change = .ok next ↔
      (∃ entry, ledger.commentEntry notebook cell = .ok entry) ∧
        ⟨ledger.notebooks.modify notebook fun grades =>
          { grades with comments := grades.comments.modify cell change }⟩ = next := by
  simp only [modifyComment, Outcome.bind_eq_ok, Outcome.pure_eq_ok, exists_and_right]

/-! ## Taking a record -/

/-- The record of a cell with these entries. -/
def Record.ofEntries (cell : String) (entry : GradeEntry) (comment : Option CommentEntry) :
    Record where
  cellId := cell
  manualScore := entry.manualScore.get?.map Number.toFloat
  autoScore := entry.autoScore.get?.map Number.toFloat
  extraCredit := (entry.extraCredit.get?.map Number.toFloat).getD 0
  comment := (comment.bind (·.manualComment.get?)).getD ""
  needsManualGrade := entry.needsManualGrade.get?.getD false

variable {record : Record}

theorem record_eq_ok_iff :
    ledger.record notebook cell = .ok record ↔
      ∃ grades entry, ledger.notebooks.get? notebook = some grades ∧
        grades.grades.get? cell = some entry ∧
        Record.ofEntries cell entry (grades.comments.get? cell) = record := by
  simp only [Ledger.record, Outcome.bind_eq_ok, grade_eq_ok_iff, notebook_eq_ok_iff,
    Outcome.pure_eq_ok]
  constructor
  · rintro ⟨entry, ⟨grades, held, found⟩, others, again, rfl⟩
    cases held.symm.trans again
    exact ⟨grades, entry, held, found, rfl⟩
  · rintro ⟨grades, entry, held, found, rfl⟩
    exact ⟨entry, ⟨grades, held, found⟩, grades, held, rfl⟩

theorem cellId_of_record (taken : ledger.record notebook cell = .ok record) :
    record.cellId = cell := by
  rcases record_eq_ok_iff.1 taken with ⟨_, _, _, _, rfl⟩
  rfl

theorem manualScore_of_record (taken : ledger.record notebook cell = .ok record) :
    ledger.manualScore notebook cell = .ok record.manualScore := by
  rcases record_eq_ok_iff.1 taken with ⟨grades, entry, held, found, rfl⟩
  rw [manualScore, grade_eq_ok_iff.2 ⟨grades, held, found⟩]
  rfl

theorem extraCredit_of_record (taken : ledger.record notebook cell = .ok record) :
    ledger.extraCredit notebook cell = .ok record.extraCredit := by
  rcases record_eq_ok_iff.1 taken with ⟨grades, entry, held, found, rfl⟩
  rw [extraCredit, grade_eq_ok_iff.2 ⟨grades, held, found⟩]
  rfl

/-- A cell with a grade entry has a record. -/
theorem exists_record_of_grade (graded : ∃ entry, ledger.grade notebook cell = .ok entry) :
    ∃ record, ledger.record notebook cell = .ok record := by
  rcases graded with ⟨entry, graded⟩
  rcases grade_eq_ok_iff.1 graded with ⟨grades, held, found⟩
  exact ⟨_, record_eq_ok_iff.2 ⟨grades, entry, held, found, rfl⟩⟩

/-! ## New entries -/

/-- A new entry leaves every record alone. -/
theorem record_ensureEntry (taken : ledger.record otherNotebook otherCell = .ok record)
    (notebook cell : String) (tool : Tool) :
    (ledger.ensureEntry notebook cell tool).2.record otherNotebook otherCell = .ok record := by
  rcases record_eq_ok_iff.1 taken with ⟨grades, entry, held, found, rfl⟩
  apply record_eq_ok_iff.2
  by_cases elsewhere : otherNotebook = notebook
  · subst elsewhere
    refine ⟨grades.ensureEntry cell tool, entry, ?_, ?_, ?_⟩
    · simp only [ensureEntry, held, Option.getD_some, Dict.get?_insert_self]
    · simp only [NotebookGrades.ensureEntry]
      split_ifs with present
      · exact found
      · have differs : otherCell ≠ cell := by
          rintro rfl
          exact present (Dict.contains_iff_exists.2 ⟨entry, found⟩)
        rw [Dict.get?_insert_of_ne _ _ differs, found]
    · -- a comment entry that is missing and a new one both read as no comment
      simp only [NotebookGrades.ensureEntry]
      split_ifs with present
      · rfl
      · rw [Dict.get?_insert]
        split_ifs with same
        · subst same
          have missing : grades.comments.get? otherCell = none :=
            Option.not_isSome_iff_eq_none.1 present
          rw [missing]
          rfl
        · rfl
  · refine ⟨grades, entry, ?_, found, rfl⟩
    exact (Dict.get?_insert_of_ne _ _ elsewhere).trans held

/-! ## Setters -/

/-- What a setter writes into the record of its cell. -/
def Setting.write (record : Record) : Setting → Record
  | .manualScore score | .manualScoreChecked score _ => { record with manualScore := some score }
  | .extraCredit amount | .extraCreditChecked amount => { record with extraCredit := amount }
  | .needsManualGrade flag => { record with needsManualGrade := flag }
  | .comment text => { record with comment := text }

/-- What has to be said of the value of a setter before it is written. -/
def Setting.check : Setting → Except ScoreError Unit
  | .manualScore score | .extraCredit score =>
    if score.isFinite then .ok () else .error .notFinite
  | .manualScoreChecked score points => Score.check score points
  | .extraCreditChecked amount => Score.checkExtra amount
  | .needsManualGrade _ | .comment _ => .ok ()

theorem record_modifyGrade {change : GradeEntry → GradeEntry}
    (changed : ledger.modifyGrade notebook cell change = .ok next) :
    ∃ entry comment, ledger.record notebook cell = .ok (Record.ofEntries cell entry comment) ∧
      next.record notebook cell = .ok (Record.ofEntries cell (change entry) comment) := by
  rcases modifyGrade_eq_ok_iff.1 changed with ⟨graded, rfl⟩
  rcases exists_record_of_grade graded with ⟨record, taken⟩
  rcases record_eq_ok_iff.1 taken with ⟨grades, entry, held, found, rfl⟩
  refine ⟨entry, grades.comments.get? cell, taken, record_eq_ok_iff.2
    ⟨{ grades with grades := grades.grades.modify cell change }, change entry, ?_, ?_, rfl⟩⟩
  · rw [Dict.get?_modify_self, held, Option.map_some]
  · rw [Dict.get?_modify_self, found, Option.map_some]

theorem record_modifyComment {change : CommentEntry → CommentEntry}
    (changed : ledger.modifyComment notebook cell change = .ok next)
    (taken : ledger.record notebook cell = .ok record) :
    ∃ entry comment, Record.ofEntries cell entry (some comment) = record ∧
      next.record notebook cell = .ok (Record.ofEntries cell entry (some (change comment))) := by
  rcases modifyComment_eq_ok_iff.1 changed with ⟨⟨comment, commented⟩, rfl⟩
  rcases commentEntry_eq_ok_iff.1 commented with ⟨others, again, present⟩
  rcases record_eq_ok_iff.1 taken with ⟨grades, entry, held, found, rfl⟩
  have same : grades = others := Option.some.inj (held.symm.trans again)
  subst same
  refine ⟨entry, comment, by rw [present], record_eq_ok_iff.2
    ⟨{ grades with comments := grades.comments.modify cell change }, entry, ?_, found, ?_⟩⟩
  · rw [Dict.get?_modify_self, held, Option.map_some]
  · rw [Dict.get?_modify_self, present, Option.map_some]

/-- A finite value is taken, as itself. -/
theorem finite_eq_ok_iff {x : Float} {n : Number} :
    finite x = .ok n ↔ ∃ finite : x.isFinite = true, Number.double x finite = n := by
  unfold finite Number.ofFloat?
  split_ifs with holds
  · simp only [Except.ok.injEq, holds, exists_true_left]
  · constructor
    · intro impossible
      cases impossible
    · rintro ⟨impossible, _⟩
      exact absurd impossible holds

theorem setManualScoreChecked_eq_ok_iff {score points : Float} :
    ledger.setManualScoreChecked notebook cell score points = .ok next ↔
      Score.check score points = .ok () ∧ ledger.setManualScore notebook cell score = .ok next := by
  simp only [setManualScoreChecked, Outcome.bind_eq_ok, Outcome.mapError_eq_ok, exists_and_right,
    Outcome.exists_eq_ok_iff]

theorem setExtraCreditChecked_eq_ok_iff {amount : Float} :
    ledger.setExtraCreditChecked notebook cell amount = .ok next ↔
      Score.checkExtra amount = .ok () ∧
        ledger.setExtraCredit notebook cell amount = .ok next := by
  simp only [setExtraCreditChecked, Outcome.bind_eq_ok, Outcome.mapError_eq_ok, exists_and_right,
    Outcome.exists_eq_ok_iff]

/-- A manual score is stored only where it is finite and the cell has a record. -/
theorem exists_record_of_setManualScore {score : Float}
    (set : ledger.setManualScore notebook cell score = .ok next) :
    score.isFinite = true ∧ ∃ record, ledger.record notebook cell = .ok record ∧
      next.record notebook cell = .ok { record with manualScore := some score } := by
  rcases Outcome.bind_eq_ok.1 set with ⟨_, checked, changed⟩
  rcases finite_eq_ok_iff.1 checked with ⟨finite, rfl⟩
  rcases record_modifyGrade changed with ⟨entry, comment, taken, after⟩
  exact ⟨finite, _, taken, after⟩

theorem exists_record_of_setExtraCredit {amount : Float}
    (set : ledger.setExtraCredit notebook cell amount = .ok next) :
    amount.isFinite = true ∧ ∃ record, ledger.record notebook cell = .ok record ∧
      next.record notebook cell = .ok { record with extraCredit := amount } := by
  rcases Outcome.bind_eq_ok.1 set with ⟨_, checked, changed⟩
  rcases finite_eq_ok_iff.1 checked with ⟨finite, rfl⟩
  rcases record_modifyGrade changed with ⟨entry, comment, taken, after⟩
  exact ⟨finite, _, taken, after⟩

/-- A setter that succeeds writes one field of the record of its cell. -/
theorem Setting.record_of_apply {setting : Setting}
    (changed : setting.apply ledger notebook cell = .ok next)
    (taken : ledger.record notebook cell = .ok record) :
    next.record notebook cell = .ok (setting.write record) := by
  have score : ∀ {score : Float}, ledger.setManualScore notebook cell score = .ok next →
      next.record notebook cell = .ok { record with manualScore := some score } := by
    intro score set
    rcases exists_record_of_setManualScore set with ⟨_, before, again, after⟩
    cases taken.symm.trans again
    exact after
  have credit : ∀ {amount : Float}, ledger.setExtraCredit notebook cell amount = .ok next →
      next.record notebook cell = .ok { record with extraCredit := amount } := by
    intro amount set
    rcases exists_record_of_setExtraCredit set with ⟨_, before, again, after⟩
    cases taken.symm.trans again
    exact after
  cases setting with
  | manualScore value => exact score changed
  | manualScoreChecked value points => exact score (setManualScoreChecked_eq_ok_iff.1 changed).2
  | extraCredit amount => exact credit changed
  | extraCreditChecked amount => exact credit (setExtraCreditChecked_eq_ok_iff.1 changed).2
  | needsManualGrade flag =>
      rcases record_modifyGrade changed with ⟨entry, comment, again, after⟩
      cases taken.symm.trans again
      exact after
  | comment text =>
      rcases record_modifyComment changed taken with ⟨entry, comment, rfl, after⟩
      exact after

/-- A setter leaves the records of other cells alone. -/
theorem Setting.record_of_apply_of_ne {setting : Setting}
    (changed : setting.apply ledger notebook cell = .ok next)
    (elsewhere : otherNotebook = notebook → otherCell ≠ cell)
    (taken : ledger.record otherNotebook otherCell = .ok record) :
    next.record otherNotebook otherCell = .ok record := by
  rcases record_eq_ok_iff.1 taken with ⟨grades, entry, held, found, rfl⟩
  apply record_eq_ok_iff.2
  cases changes_of_apply changed with
  | @grade change changed _ =>
      rcases modifyGrade_eq_ok_iff.1 changed with ⟨_, rfl⟩
      by_cases same : otherNotebook = notebook
      · subst same
        refine ⟨{ grades with grades := grades.grades.modify cell change }, entry, ?_, ?_, rfl⟩
        · rw [Dict.get?_modify_self, held, Option.map_some]
        · rw [Dict.get?_modify_of_ne _ _ (elsewhere rfl), found]
      · refine ⟨grades, entry, ?_, found, rfl⟩
        rw [Dict.get?_modify_of_ne _ _ same, held]
  | @comment change changed _ =>
      rcases modifyComment_eq_ok_iff.1 changed with ⟨_, rfl⟩
      by_cases same : otherNotebook = notebook
      · subst same
        refine ⟨{ grades with comments := grades.comments.modify cell change }, entry, ?_,
          found, ?_⟩
        · rw [Dict.get?_modify_self, held, Option.map_some]
        · rw [Dict.get?_modify_of_ne _ _ (elsewhere rfl)]
      · refine ⟨grades, entry, ?_, found, rfl⟩
        rw [Dict.get?_modify_of_ne _ _ same, held]

/-- The value is looked at before anything else. -/
theorem Setting.apply_of_check_error {setting : Setting} {error : ScoreError}
    (refused : setting.check = .error error) :
    setting.apply ledger notebook cell = .error (.score error) := by
  have unfinished : ∀ {x : Float}, (if x.isFinite then .ok () else .error .notFinite :
      Except ScoreError Unit) = .error error → finite x = .error (.score error) := by
    intro x refused
    split_ifs at refused with holds
    cases refused
    simp only [finite, Number.ofFloat?, holds, Bool.false_eq_true, dite_false]
  cases setting with
  | manualScore score =>
      simp only [apply, setManualScore, unfinished refused, Outcome.error_bind]
  | manualScoreChecked score points =>
      simp only [check] at refused
      simp only [apply, setManualScoreChecked, refused, Except.mapError, Outcome.error_bind]
  | extraCredit amount =>
      simp only [apply, setExtraCredit, unfinished refused, Outcome.error_bind]
  | extraCreditChecked amount =>
      simp only [check] at refused
      simp only [apply, setExtraCreditChecked, refused, Except.mapError, Outcome.error_bind]
  | needsManualGrade flag => cases refused
  | comment text => cases refused

theorem Ensured.exists_grade (ensured : ledger.Ensured notebook cell) :
    ∃ entry, ledger.grade notebook cell = .ok entry := by
  rcases ensured with ⟨grades, held, ensured⟩
  rcases Dict.contains_iff_exists.1 ensured.grade with ⟨entry, found⟩
  exact ⟨entry, grade_eq_ok_iff.2 ⟨grades, held, found⟩⟩

theorem Ensured.exists_commentEntry (ensured : ledger.Ensured notebook cell) :
    ∃ entry, ledger.commentEntry notebook cell = .ok entry := by
  rcases ensured with ⟨grades, held, ensured⟩
  rcases Dict.contains_iff_exists.1 ensured.comment with ⟨entry, found⟩
  exact ⟨entry, commentEntry_eq_ok_iff.2 ⟨grades, held, found⟩⟩

theorem Ensured.exists_modifyGrade (ensured : ledger.Ensured notebook cell)
    (change : GradeEntry → GradeEntry) :
    ∃ next, ledger.modifyGrade notebook cell change = .ok next :=
  ⟨_, modifyGrade_eq_ok_iff.2 ⟨ensured.exists_grade, rfl⟩⟩

theorem Ensured.exists_setManualScore (ensured : ledger.Ensured notebook cell) {score : Float}
    (finite : score.isFinite = true) :
    ∃ next, ledger.setManualScore notebook cell score = .ok next := by
  rw [setManualScore, finite_eq_ok_iff.2 ⟨finite, rfl⟩, Outcome.ok_bind]
  exact ensured.exists_modifyGrade _

theorem Ensured.exists_setExtraCredit (ensured : ledger.Ensured notebook cell) {amount : Float}
    (finite : amount.isFinite = true) :
    ∃ next, ledger.setExtraCredit notebook cell amount = .ok next := by
  rw [setExtraCredit, finite_eq_ok_iff.2 ⟨finite, rfl⟩, Outcome.ok_bind]
  exact ensured.exists_modifyGrade _

/-- In a cell that is ensured every value is stored that is taken at all. -/
theorem Setting.exists_apply {setting : Setting} (ensured : ledger.Ensured notebook cell)
    (taken : setting.check = .ok ()) :
    ∃ next, setting.apply ledger notebook cell = .ok next := by
  have finite : ∀ {x : Float}, (if x.isFinite then .ok () else .error .notFinite :
      Except ScoreError Unit) = .ok () → x.isFinite = true := by
    intro x taken
    split_ifs at taken with finite
    exact finite
  cases setting with
  | manualScore score => exact ensured.exists_setManualScore (finite taken)
  | manualScoreChecked score points =>
      rcases ensured.exists_setManualScore (Score.check_eq_ok_iff.1 taken).1 with ⟨next, set⟩
      exact ⟨next, setManualScoreChecked_eq_ok_iff.2 ⟨taken, set⟩⟩
  | extraCredit amount => exact ensured.exists_setExtraCredit (finite taken)
  | extraCreditChecked amount =>
      rcases ensured.exists_setExtraCredit (Score.checkExtra_eq_ok_iff.1 taken).1 with ⟨next, set⟩
      exact ⟨next, setExtraCreditChecked_eq_ok_iff.2 ⟨taken, set⟩⟩
  | needsManualGrade flag => exact ensured.exists_modifyGrade _
  | comment text => exact ⟨_, modifyComment_eq_ok_iff.2 ⟨ensured.exists_commentEntry, rfl⟩⟩

end Ledger

end Gradebook
