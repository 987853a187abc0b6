import Gradebook.Ledger.Basic
import Gradebook.Proofs.Ledger.Notebook

namespace Gradebook

/-!
# What the operations carry along

Grading changes recognised members and adds entries.  Here it is proved that no
operation drops, changes or invents a value that a ledger carries along, but for
the point budget of a new entry, which is a number.

`Ledger.Reachable` collects the ledgers that can come up: read from a value or a
text, or made from nothing, and then changed by setters and new entries in any
order.  All that such a ledger carries along is canonical, because reading makes
it so and no operation undoes it.
-/

/-! ## Notebooks -/

namespace NotebookGrades

theorem not_carries_empty (value : Json) : ¬ empty.Carries value := by
  intro carried
  cases carried with
  | beside member => cases member
  | grade found member => cases found
  | comment found member => cases found

theorem carries_of_modify_grades {grades : NotebookGrades} {cell : String}
    {change : GradeEntry → GradeEntry} (keeps : ∀ entry, (change entry).extra = entry.extra)
    {value : Json}
    (carried : { grades with grades := grades.grades.modify cell change }.Carries value) :
    grades.Carries value := by
  cases carried with
  | beside member => exact .beside member
  | @grade other name entry found member =>
      simp only [Dict.get?_modify, Option.map_eq_some_iff] at found
      obtain ⟨before, found, rfl⟩ := found
      split_ifs at member
      · exact .grade found (keeps before ▸ member)
      · exact .grade found member
  | comment found member => exact .comment found member

theorem carries_of_modify_comments {grades : NotebookGrades} {cell : String}
    {change : CommentEntry → CommentEntry} (keeps : ∀ entry, (change entry).extra = entry.extra)
    {value : Json}
    (carried : { grades with comments := grades.comments.modify cell change }.Carries value) :
    grades.Carries value := by
  cases carried with
  | beside member => exact .beside member
  | grade found member => exact .grade found member
  | @comment other name entry found member =>
      simp only [Dict.get?_modify, Option.map_eq_some_iff] at found
      obtain ⟨before, found, rfl⟩ := found
      split_ifs at member
      · exact .comment found (keeps before ▸ member)
      · exact .comment found member

theorem number_of_initial {tool : Tool} {name : String} {value : Json}
    (member : (GradeEntry.initial tool).extra.members.get? name = some value) :
    ∃ n, value = .number n := by
  unfold GradeEntry.initial at member
  split at member
  · next points _ =>
      change (Dict.empty.insert "max_score" (Json.number points)).get? name = some value at member
      rw [Dict.get?_insert] at member
      split_ifs at member
      · exact ⟨points, (Option.some.inj member).symm⟩
      · cases member
  · cases member

/-- New entries bring nothing along but numbers. -/
theorem carries_of_ensureEntry {grades : NotebookGrades} {cell : String} {tool : Tool}
    {value : Json} (carried : (grades.ensureEntry cell tool).Carries value) :
    grades.Carries value ∨ ∃ n, value = .number n := by
  cases carried with
  | beside member => exact .inl (.beside member)
  | @grade other name entry found member =>
      simp only [ensureEntry] at found
      split_ifs at found
      · exact .inl (.grade found member)
      · rw [Dict.get?_insert] at found
        split_ifs at found
        · cases found
          exact .inr (number_of_initial member)
        · exact .inl (.grade found member)
  | @comment other name entry found member =>
      simp only [ensureEntry] at found
      split_ifs at found
      · exact .inl (.comment found member)
      · rw [Dict.get?_insert] at found
        split_ifs at found
        · cases found
          cases member
        · exact .inl (.comment found member)

end NotebookGrades

/-! ## Ledgers -/

namespace Ledger

/-- A value that one of the notebooks carries along. -/
def Carries (ledger : Ledger) (value : Json) : Prop :=
  ∃ notebook grades, ledger.notebooks.get? notebook = some grades ∧ grades.Carries value

variable {ledger next : Ledger} {notebook cell : String} {value : Json}

theorem carries_of_modify {change : NotebookGrades → NotebookGrades}
    (keeps : ∀ grades, (change grades).Carries value → grades.Carries value)
    (carried : Carries ⟨ledger.notebooks.modify notebook change⟩ value) : ledger.Carries value := by
  obtain ⟨other, grades, found, carried⟩ := carried
  simp only [Dict.get?_modify, Option.map_eq_some_iff] at found
  obtain ⟨before, found, rfl⟩ := found
  split_ifs at carried
  · exact ⟨other, before, found, keeps before carried⟩
  · exact ⟨other, before, found, carried⟩

theorem carries_of_modifyGrade {change : GradeEntry → GradeEntry}
    (changed : ledger.modifyGrade notebook cell change = .ok next)
    (keeps : ∀ entry, (change entry).extra = entry.extra)
    (carried : next.Carries value) : ledger.Carries value := by
  simp only [modifyGrade, Outcome.bind_eq_ok, Outcome.pure_eq_ok] at changed
  obtain ⟨_, _, rfl⟩ := changed
  exact carries_of_modify (fun _ => NotebookGrades.carries_of_modify_grades keeps) carried

theorem carries_of_modifyComment {change : CommentEntry → CommentEntry}
    (changed : ledger.modifyComment notebook cell change = .ok next)
    (keeps : ∀ entry, (change entry).extra = entry.extra)
    (carried : next.Carries value) : ledger.Carries value := by
  simp only [modifyComment, Outcome.bind_eq_ok, Outcome.pure_eq_ok] at changed
  obtain ⟨_, _, rfl⟩ := changed
  exact carries_of_modify (fun _ => NotebookGrades.carries_of_modify_comments keeps) carried

theorem carries_of_ensureEntry {tool : Tool}
    (carried : (ledger.ensureEntry notebook cell tool).2.Carries value) :
    ledger.Carries value ∨ ∃ n, value = .number n := by
  obtain ⟨other, grades, found, carried⟩ := carried
  change (ledger.notebooks.insert notebook _).get? other = some grades at found
  rw [Dict.get?_insert] at found
  split_ifs at found
  · cases found
    rcases NotebookGrades.carries_of_ensureEntry carried with before | number
    · cases present : ledger.notebooks.get? notebook with
      | none =>
          rw [present] at before
          exact absurd before (NotebookGrades.not_carries_empty value)
      | some grades =>
          rw [present] at before
          exact .inl ⟨notebook, grades, present, before⟩
    · exact .inr number
  · exact .inl ⟨other, grades, found, carried⟩

/-! ## Setters -/

/-- A value that a setter puts into a cell. -/
inductive Setting
  | manualScore (score : Float)
  | manualScoreChecked (score points : Float)
  | extraCredit (amount : Float)
  | extraCreditChecked (amount : Float)
  | needsManualGrade (flag : Bool)
  | comment (text : String)

/-- Put a value into a cell. -/
def Setting.apply (ledger : Ledger) (notebook cell : String) : Setting → Except LedgerError Ledger
  | .manualScore score => ledger.setManualScore notebook cell score
  | .manualScoreChecked score points => ledger.setManualScoreChecked notebook cell score points
  | .extraCredit amount => ledger.setExtraCredit notebook cell amount
  | .extraCreditChecked amount => ledger.setExtraCreditChecked notebook cell amount
  | .needsManualGrade flag => ledger.setNeedsManualGrade notebook cell flag
  | .comment text => ledger.setComment notebook cell text

/-- A setter that succeeds changes fields of one grade entry or of one comment
entry. -/
inductive Setting.Changes (ledger : Ledger) (notebook cell : String) (next : Ledger) : Prop
  | grade {change : GradeEntry → GradeEntry}
    (changed : ledger.modifyGrade notebook cell change = .ok next)
    (keeps : ∀ entry, (change entry).extra = entry.extra)
  | comment {change : CommentEntry → CommentEntry}
    (changed : ledger.modifyComment notebook cell change = .ok next)
    (keeps : ∀ entry, (change entry).extra = entry.extra)

theorem Setting.changes_of_apply {setting : Setting}
    (changed : setting.apply ledger notebook cell = .ok next) :
    Setting.Changes ledger notebook cell next := by
  cases setting with
  | manualScore score =>
      obtain ⟨n, _, changed⟩ := Outcome.bind_eq_ok.1 changed
      exact .grade changed fun _ => rfl
  | manualScoreChecked score points =>
      obtain ⟨_, _, changed⟩ := Outcome.bind_eq_ok.1 changed
      obtain ⟨n, _, changed⟩ := Outcome.bind_eq_ok.1 changed
      exact .grade changed fun _ => rfl
  | extraCredit amount =>
      obtain ⟨n, _, changed⟩ := Outcome.bind_eq_ok.1 changed
      exact .grade changed fun _ => rfl
  | extraCreditChecked amount =>
      obtain ⟨_, _, changed⟩ := Outcome.bind_eq_ok.1 changed
      obtain ⟨n, _, changed⟩ := Outcome.bind_eq_ok.1 changed
      exact .grade changed fun _ => rfl
  | needsManualGrade flag => exact .grade changed fun _ => rfl
  | comment text => exact .comment changed fun _ => rfl

theorem Setting.carries_of_apply {setting : Setting}
    (changed : setting.apply ledger notebook cell = .ok next)
    (carried : next.Carries value) : ledger.Carries value := by
  cases changes_of_apply changed with
  | grade changed keeps => exact carries_of_modifyGrade changed keeps carried
  | comment changed keeps => exact carries_of_modifyComment changed keeps carried

/-! ## Ledgers that can come up -/

/-- A ledger that starts empty or is read, and is changed by setters and new
entries from there. -/
inductive Reachable : Ledger → Prop
  | empty : Reachable .empty
  | ofJson {payload : Json} {ledger : Ledger} (read : Ledger.ofJson payload = .ok ledger) :
    Reachable ledger
  | ofText {text : String} {ledger : Ledger} (read : Ledger.ofText text = .ok ledger) :
    Reachable ledger
  | set {ledger next : Ledger} (reachable : Reachable ledger) {notebook cell : String}
    {setting : Setting} (changed : setting.apply ledger notebook cell = .ok next) : Reachable next
  | ensureEntry {ledger : Ledger} (reachable : Reachable ledger) (notebook cell : String)
    (tool : Tool) : Reachable (ledger.ensureEntry notebook cell tool).2

theorem yields_canonical :
    Json.Yields reader fun ledger => ∀ value, ledger.Carries value → value.Canonical := by
  intro origin document ledger accepted value carried
  simp only [reader, Outcome.bind_eq_ok, Outcome.pure_eq_ok] at accepted
  obtain ⟨notebooks, accepted, rfl⟩ := accepted
  obtain ⟨notebook, grades, found, carried⟩ := carried
  exact NotebookGrades.yields_canonical.dict origin document notebooks accepted notebook grades
    found value carried

/-- What a ledger that can come up carries along is canonical. -/
theorem Reachable.canonical (reachable : Reachable ledger) (carried : ledger.Carries value) :
    value.Canonical := by
  induction reachable with
  | empty =>
      obtain ⟨_, _, found, _⟩ := carried
      cases found
  | ofJson read => exact yields_canonical _ _ _ read value carried
  | ofText read => exact yields_canonical.text read value carried
  | set reachable changed inductionHypothesis =>
      exact inductionHypothesis (Setting.carries_of_apply changed carried)
  | ensureEntry reachable notebook cell tool inductionHypothesis =>
      rcases carries_of_ensureEntry carried with before | ⟨n, rfl⟩
      · exact inductionHypothesis before
      · simp only [Json.Canonical]

end Ledger

end Gradebook
