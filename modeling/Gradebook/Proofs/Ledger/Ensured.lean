import Gradebook.Proofs.Ledger.Operations

namespace Gradebook

/-!
# Cells with entries

A cell is ensured when it has both a grade entry and a comment entry.  Making
sure of its entries then changes nothing, no setter takes them away again, and
its record can always be taken.  These three facts make it harmless to make sure
of the same cells more than once.
-/

/-! ## Notebooks -/

namespace NotebookGrades

/-- Whether a cell has a grade entry and a comment entry. -/
structure Ensured (grades : NotebookGrades) (cell : String) : Prop where
  grade : grades.grades.contains cell = true
  comment : grades.comments.contains cell = true

variable {grades : NotebookGrades} {cell other : String}

theorem ensureEntry_of_ensured (ensured : grades.Ensured cell) (tool : Tool) :
    grades.ensureEntry cell tool = grades := by
  simp only [ensureEntry, ensured.grade, ensured.comment, if_true]

theorem ensured_ensureEntry_self (grades : NotebookGrades) (cell : String) (tool : Tool) :
    (grades.ensureEntry cell tool).Ensured cell := by
  constructor
  · simp only [ensureEntry]
    split_ifs with present
    · exact present
    · exact Dict.contains_insert_self _ _ _
  · simp only [ensureEntry]
    split_ifs with present
    · exact present
    · exact Dict.contains_insert_self _ _ _

theorem ensured_ensureEntry (ensured : grades.Ensured other) (cell : String) (tool : Tool) :
    (grades.ensureEntry cell tool).Ensured other := by
  constructor
  · simp only [ensureEntry]
    split_ifs
    · exact ensured.grade
    · exact Dict.contains_insert_of_contains ensured.grade
  · simp only [ensureEntry]
    split_ifs
    · exact ensured.comment
    · exact Dict.contains_insert_of_contains ensured.comment

end NotebookGrades

/-! ## Ledgers -/

namespace Ledger

/-- Whether a cell of a notebook has a grade entry and a comment entry. -/
def Ensured (ledger : Ledger) (notebook cell : String) : Prop :=
  ∃ grades, ledger.notebooks.get? notebook = some grades ∧ grades.Ensured cell

variable {ledger next : Ledger} {notebook cell : String}

theorem ensureEntry_of_ensured (ensured : ledger.Ensured notebook cell) (tool : Tool) :
    (ledger.ensureEntry notebook cell tool).2 = ledger := by
  obtain ⟨grades, found, ensured⟩ := ensured
  simp only [ensureEntry, found, Option.getD_some,
    NotebookGrades.ensureEntry_of_ensured ensured tool, Dict.insert_of_get? found]

theorem ensured_ensureEntry_self (ledger : Ledger) (notebook cell : String) (tool : Tool) :
    (ledger.ensureEntry notebook cell tool).2.Ensured notebook cell :=
  ⟨_, Dict.get?_insert_self _ _ _, NotebookGrades.ensured_ensureEntry_self _ cell tool⟩

theorem ensured_ensureEntry {otherNotebook otherCell : String}
    (ensured : ledger.Ensured otherNotebook otherCell) (notebook cell : String) (tool : Tool) :
    (ledger.ensureEntry notebook cell tool).2.Ensured otherNotebook otherCell := by
  obtain ⟨grades, found, ensured⟩ := ensured
  by_cases same : otherNotebook = notebook
  · subst same
    refine ⟨_, Dict.get?_insert_self _ _ _, ?_⟩
    rw [found, Option.getD_some]
    exact NotebookGrades.ensured_ensureEntry ensured cell tool
  · exact ⟨grades, (Dict.get?_insert_of_ne _ _ same).trans found, ensured⟩

/-- The record of a cell that is ensured can be taken, and is about this cell. -/
theorem record_of_ensured (ensured : ledger.Ensured notebook cell) :
    ∃ record, ledger.record notebook cell = .ok record ∧ record.cellId = cell := by
  obtain ⟨grades, found, ensured⟩ := ensured
  obtain ⟨entry, held⟩ := Dict.contains_iff_exists.1 ensured.grade
  simp only [record, grade, Ledger.notebook, found, held, Outcome.ok_bind, pure, Except.pure,
    Except.ok.injEq, exists_eq_left']

/-! ## Setters -/

variable {otherNotebook otherCell : String}

theorem ensured_modify {changed : String} {change : NotebookGrades → NotebookGrades}
    (ensured : ledger.Ensured otherNotebook otherCell)
    (keeps : ∀ grades, NotebookGrades.Ensured grades otherCell → (change grades).Ensured otherCell) :
    Ensured ⟨ledger.notebooks.modify changed change⟩ otherNotebook otherCell := by
  obtain ⟨grades, found, ensured⟩ := ensured
  refine ⟨_, (Dict.get?_modify _ _ _ _).trans (congrArg (Option.map _) found), ?_⟩
  split_ifs
  · exact keeps grades ensured
  · exact ensured

/-- No setter takes entries away. -/
theorem Setting.ensured_of_apply {setting : Setting}
    (changed : setting.apply ledger notebook cell = .ok next)
    (ensured : ledger.Ensured otherNotebook otherCell) : next.Ensured otherNotebook otherCell := by
  cases changes_of_apply changed with
  | grade changed _ =>
      simp only [modifyGrade, Outcome.bind_eq_ok, Outcome.pure_eq_ok] at changed
      obtain ⟨_, _, rfl⟩ := changed
      refine ensured_modify ensured fun grades ensured => ⟨?_, ensured.comment⟩
      exact (Dict.contains_modify _ _ _ _).trans ensured.grade
  | comment changed _ =>
      simp only [modifyComment, Outcome.bind_eq_ok, Outcome.pure_eq_ok] at changed
      obtain ⟨_, _, rfl⟩ := changed
      refine ensured_modify ensured fun grades ensured => ⟨ensured.grade, ?_⟩
      exact (Dict.contains_modify _ _ _ _).trans ensured.comment

end Ledger

end Gradebook
