import Gradebook.Proofs.Ledger.Leaf

namespace Gradebook

namespace Ledger

/-!
# Setters

Four things about a cell can be set: its manual score, its extra credit, whether it waits
for a grader, and its comment.  A setter that succeeds writes one leaf of the payload; the
getter of that leaf then gives the very value that was written.  A setter that fails says
what was missing, and as it gives no ledger, its caller is left with the one from before.

A value that is no number is refused first.  Then the notebook is looked for, then the
cell.
-/

/-- What a setter of one leaf of a cell has to do.  Whether its value may be written at all
is `finite`; which notebooks have an entry of the cell is `has`; what a getter has to give
when the value has been written is `reads`. -/
structure SetsLeaf (ledger : Ledger) (notebook cell : String) (finite : Bool)
    (has : NotebookGrades → Bool) (leaf : Json.Leaf) (reads : Ledger → Prop)
    (result : Except LedgerError Ledger) : Prop where
  succeeds_iff : (∃ next, result = .ok next) ↔
    finite = true ∧ ∃ grades, ledger.notebooks.get? notebook = some grades ∧ has grades = true
  edits : ∀ next, result = .ok next → Json.Edits [leaf] ledger.toJson next.toJson ∧ reads next
  notFinite_iff : result = .error (.score .notFinite) ↔ finite = false
  noNotebook_iff : result = .error (.missing notebook none) ↔
    finite = true ∧ ledger.notebooks.get? notebook = none
  noCell_iff : result = .error (.missing notebook (some cell)) ↔
    finite = true ∧ ∃ grades, ledger.notebooks.get? notebook = some grades ∧ has grades = false

variable {ledger next : Ledger} {notebook cell field : String} {content : Json} {finite : Bool}
  {has : NotebookGrades → Bool} {leaf : Json.Leaf} {reads : Ledger → Prop}
  {result : Except LedgerError Ledger}

/-- The four cases shut each other out, so it is enough to say what happens in each. -/
theorem SetsLeaf.of_cases
    (refused : finite = false → result = .error (.score .notFinite))
    (noNotebook : finite = true → ledger.notebooks.get? notebook = none →
      result = .error (.missing notebook none))
    (noCell : ∀ grades, finite = true → ledger.notebooks.get? notebook = some grades →
      has grades = false → result = .error (.missing notebook (some cell)))
    (sets : ∀ grades, finite = true → ledger.notebooks.get? notebook = some grades →
      has grades = true →
        ∃ next, result = .ok next ∧ Json.Edits [leaf] ledger.toJson next.toJson ∧ reads next) :
    SetsLeaf ledger notebook cell finite has leaf reads result := by
  cases finite with
  | false =>
      cases refused rfl
      constructor <;> simp
  | true =>
      cases held : ledger.notebooks.get? notebook with
      | none =>
          cases noNotebook rfl held
          constructor <;> simp [held]
      | some grades =>
          cases present : has grades with
          | false =>
              cases noCell grades rfl held present
              constructor <;> simp [held, present]
          | true =>
              rcases sets grades rfl held present with ⟨next, rfl, edits, read⟩
              constructor <;> simp [held, present, edits, read]

/-! ## Entries that are there, and entries that are missing -/

theorem grade_of_no_notebook (unheld : ledger.notebooks.get? notebook = none) :
    ledger.grade notebook cell = .error (.missing notebook none) := by
  simp only [grade, Ledger.notebook, unheld, Outcome.error_bind]

theorem grade_of_no_cell {grades : NotebookGrades}
    (held : ledger.notebooks.get? notebook = some grades)
    (missing : grades.grades.contains cell = false) :
    ledger.grade notebook cell = .error (.missing notebook (some cell)) := by
  simp only [grade, Ledger.notebook, held, Outcome.ok_bind, Dict.get?_of_not_contains missing]
  rfl

theorem commentEntry_of_no_notebook (unheld : ledger.notebooks.get? notebook = none) :
    ledger.commentEntry notebook cell = .error (.missing notebook none) := by
  simp only [commentEntry, Ledger.notebook, unheld, Outcome.error_bind]

theorem commentEntry_of_no_cell {grades : NotebookGrades}
    (held : ledger.notebooks.get? notebook = some grades)
    (missing : grades.comments.contains cell = false) :
    ledger.commentEntry notebook cell = .error (.missing notebook (some cell)) := by
  simp only [commentEntry, Ledger.notebook, held, Outcome.ok_bind,
    Dict.get?_of_not_contains missing]
  rfl

/-- A grade entry that has been changed is found in its changed form. -/
theorem grade_modifyGrade {change : GradeEntry → GradeEntry}
    (changed : ledger.modifyGrade notebook cell change = .ok next) :
    ∃ entry, next.grade notebook cell = .ok (change entry) := by
  rcases modifyGrade_eq_ok_iff.1 changed with ⟨⟨entry, graded⟩, rfl⟩
  rcases grade_eq_ok_iff.1 graded with ⟨grades, held, found⟩
  refine ⟨entry, grade_eq_ok_iff.2 ⟨{ grades with grades := grades.grades.modify cell change },
    ?_, ?_⟩⟩
  · rw [Dict.get?_modify_self, held, Option.map_some]
  · rw [Dict.get?_modify_self, found, Option.map_some]

/-- A comment entry that has been changed is found in its changed form. -/
theorem commentEntry_modifyComment {change : CommentEntry → CommentEntry}
    (changed : ledger.modifyComment notebook cell change = .ok next) :
    ∃ entry, next.commentEntry notebook cell = .ok (change entry) := by
  rcases modifyComment_eq_ok_iff.1 changed with ⟨⟨entry, commented⟩, rfl⟩
  rcases commentEntry_eq_ok_iff.1 commented with ⟨grades, held, found⟩
  refine ⟨entry, commentEntry_eq_ok_iff.2
    ⟨{ grades with comments := grades.comments.modify cell change }, ?_, ?_⟩⟩
  · rw [Dict.get?_modify_self, held, Option.map_some]
  · rw [Dict.get?_modify_self, found, Option.map_some]

/-! ## Setting a member of an entry -/

/-- Changing one member of a grade entry sets its leaf. -/
theorem setsLeaf_modifyGrade {change : GradeEntry → GradeEntry}
    (writes : ∀ entry, Json.put [field] content entry.toJson = (change entry).toJson)
    (read : ∀ next entry, Ledger.grade next notebook cell = .ok (change entry) → reads next) :
    SetsLeaf ledger notebook cell true (fun grades => grades.grades.contains cell)
      ⟨gradePath notebook cell field, content⟩ reads
      (ledger.modifyGrade notebook cell change) := by
  apply SetsLeaf.of_cases
  · exact nofun
  · intro _ unheld
    rw [modifyGrade, grade_of_no_notebook unheld, Outcome.error_bind]
  · intro grades _ held missing
    rw [modifyGrade, grade_of_no_cell held missing, Outcome.error_bind]
  · intro grades _ held present
    rcases Dict.contains_iff_exists.1 present with ⟨entry, found⟩
    have graded := grade_eq_ok_iff.2 ⟨grades, held, found⟩
    have succeeds : ∃ next, ledger.modifyGrade notebook cell change = .ok next :=
      ⟨_, modifyGrade_eq_ok_iff.2 ⟨⟨entry, graded⟩, rfl⟩⟩
    rcases succeeds with ⟨next, changed⟩
    rcases grade_modifyGrade changed with ⟨entry, after⟩
    exact ⟨next, changed, (puts_modifyGrade changed writes).edits (List.pairwise_singleton _ _),
      read next entry after⟩

/-- Changing one member of a comment entry sets its leaf. -/
theorem setsLeaf_modifyComment {change : CommentEntry → CommentEntry}
    (writes : ∀ entry, Json.put [field] content entry.toJson = (change entry).toJson)
    (read : ∀ next entry, Ledger.commentEntry next notebook cell = .ok (change entry) →
      reads next) :
    SetsLeaf ledger notebook cell true (fun grades => grades.comments.contains cell)
      ⟨commentPath notebook cell field, content⟩ reads
      (ledger.modifyComment notebook cell change) := by
  apply SetsLeaf.of_cases
  · exact nofun
  · intro _ unheld
    rw [modifyComment, commentEntry_of_no_notebook unheld, Outcome.error_bind]
  · intro grades _ held missing
    rw [modifyComment, commentEntry_of_no_cell held missing, Outcome.error_bind]
  · intro grades _ held present
    rcases Dict.contains_iff_exists.1 present with ⟨entry, found⟩
    have commented := commentEntry_eq_ok_iff.2 ⟨grades, held, found⟩
    have succeeds : ∃ next, ledger.modifyComment notebook cell change = .ok next :=
      ⟨_, modifyComment_eq_ok_iff.2 ⟨⟨entry, commented⟩, rfl⟩⟩
    rcases succeeds with ⟨next, changed⟩
    rcases commentEntry_modifyComment changed with ⟨entry, after⟩
    exact ⟨next, changed, (puts_modifyComment changed writes).edits (List.pairwise_singleton _ _),
      read next entry after⟩

/-- A setter that takes finite values only does what it does with the value as a number. -/
theorem SetsLeaf.of_finite {x : Float} {set : Number → Except LedgerError Ledger}
    (sets : ∀ finite : x.isFinite = true,
      SetsLeaf ledger notebook cell true has leaf reads (set (.double x finite))) :
    SetsLeaf ledger notebook cell x.isFinite has leaf reads (Ledger.finite x >>= set) := by
  cases holds : x.isFinite with
  | false =>
      have refused : Ledger.finite x = .error (.score .notFinite) := by
        simp only [Ledger.finite, Number.ofFloat?, holds, Bool.false_eq_true, dite_false]
      rw [refused, Outcome.error_bind]
      apply of_cases
      · intro _
        rfl
      · intro impossible
        cases impossible
      · intro _ impossible
        cases impossible
      · intro _ impossible
        cases impossible
  | true =>
      rw [finite_eq_ok_iff.2 ⟨holds, rfl⟩, Outcome.ok_bind]
      exact sets holds

/-- Each setter changes exactly one leaf of the payload, or nothing.  It succeeds just where
its value is finite and the cell has an entry in the dictionary that the setter writes to;
then the payload differs by this one leaf and the getter gives the value as it is, neither
clamped nor rounded.  Else the error tells which of the value, the notebook and the cell
was at fault. -/
theorem setter_changes_one_leaf (ledger : Ledger) (notebook cell : String) :
    (∀ score : Float,
      SetsLeaf ledger notebook cell score.isFinite (fun grades => grades.grades.contains cell)
        (scoreLeaf notebook cell score)
        (fun next => next.manualScore notebook cell = .ok (some score))
        (ledger.setManualScore notebook cell score)) ∧
    (∀ amount : Float,
      SetsLeaf ledger notebook cell amount.isFinite (fun grades => grades.grades.contains cell)
        (extraCreditLeaf notebook cell amount)
        (fun next => next.extraCredit notebook cell = .ok amount)
        (ledger.setExtraCredit notebook cell amount)) ∧
    (∀ flag : Bool,
      SetsLeaf ledger notebook cell true (fun grades => grades.grades.contains cell)
        (flagLeaf notebook cell flag)
        (fun next => next.needsManualGrade notebook cell = .ok flag)
        (ledger.setNeedsManualGrade notebook cell flag)) ∧
    ∀ text : String,
      SetsLeaf ledger notebook cell true (fun grades => grades.comments.contains cell)
        (commentLeaf notebook cell text)
        (fun next => next.comment notebook cell = .ok text)
        (ledger.setComment notebook cell text) := by
  refine ⟨?score, ?credit, ?flag, ?comment⟩
  case score =>
    intro score
    apply SetsLeaf.of_finite
    intro finite
    rw [scoreLeaf, ofFloat_of_finite finite]
    apply setsLeaf_modifyGrade fun entry => entry.put_manualScore _
    intro next entry graded
    rw [manualScore, graded]
    rfl
  case credit =>
    intro amount
    apply SetsLeaf.of_finite
    intro finite
    rw [extraCreditLeaf, ofFloat_of_finite finite]
    apply setsLeaf_modifyGrade fun entry => entry.put_extraCredit _
    intro next entry graded
    rw [extraCredit, graded]
    rfl
  case flag =>
    intro flag
    apply setsLeaf_modifyGrade fun entry => entry.put_needsManualGrade flag
    intro next entry graded
    rw [needsManualGrade, graded]
    rfl
  case comment =>
    intro text
    apply setsLeaf_modifyComment fun entry => entry.put_manualComment text
    intro next entry commented
    rw [comment, commented]
    rfl

end Ledger

end Gradebook
