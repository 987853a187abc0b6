import Gradebook.Proofs.Json.Path
import Gradebook.Proofs.Ledger.Cell

namespace Gradebook

/-!
# Leaves of a payload

A score, extra credit and a comment of a cell each stand in one place of the payload of a
ledger: under the name of the notebook, in one of its two dictionaries, under the id of
the cell, in one member of the entry.  A setter puts its value there and changes nothing
else of the payload.

The entry has been there before.  That its member may be new is the reason for speaking
of objects with room for a leaf.
-/

open Json (Leaf Puts put ofDict put_ofDict)

namespace Json

/-- Putting something inside one value of a dictionary changes this value. -/
theorem put_ofDict_map {α : Type} {dict : Dict α} {toJson : α → Json} {name : String} {a : α}
    {change : α → α} {path : List String} {content : Json} (found : dict.get? name = some a)
    (inner : put path content (toJson a) = toJson (change a)) :
    put (name :: path) content (ofDict (dict.map toJson)) =
      ofDict ((dict.modify name change).map toJson) := by
  rw [put_ofDict, Dict.get?_map, found, Option.map_some, Option.getD_some, inner]
  apply congrArg ofDict
  ext other
  rw [Dict.get?_insert, Dict.get?_map, Dict.get?_map, Dict.get?_modify]
  split_ifs with same
  · rw [same, found]
    rfl
  · rw [Option.map_id']

/-- A record in which one field has been written shows its value under its name. -/
theorem Record.put_toDict {α : Type} {fields : List String} (record : Record α fields)
    {a next : α} {name : String} {content : Json} (field : name ∈ fields)
    (same : record.extra next = record.extra a)
    (shown : ∀ other, record.member? next other =
      if other = name then some content else record.member? a other) :
    put [name] content (ofDict (record.toDict a)) = ofDict (record.toDict next) := by
  rw [put_ofDict, put]
  apply congrArg ofDict
  ext other
  rw [Dict.get?_insert, record.get?_toDict, record.get?_toDict, shown, same]
  split_ifs with here listed listed
  · rfl
  · exact absurd (here ▸ field) listed
  · rfl
  · rfl

end Json

/-! ## Entries -/

theorem GradeEntry.put_manualScore (entry : GradeEntry) (n : Number) :
    put ["manual_score"] (.number n) entry.toJson =
      { entry with manualScore := .value n }.toJson := by
  have shown : ∀ other, member? { entry with manualScore := .value n } other =
      if other = "manual_score" then some (.number n) else entry.member? other := by
    intro other
    simp only [member?]
    split_ifs <;> rfl
  exact record.put_toDict (by decide) rfl shown

theorem GradeEntry.put_extraCredit (entry : GradeEntry) (n : Number) :
    put ["extra_credit"] (.number n) entry.toJson =
      { entry with extraCredit := .value n }.toJson := by
  have shown : ∀ other, member? { entry with extraCredit := .value n } other =
      if other = "extra_credit" then some (.number n) else entry.member? other := by
    intro other
    simp only [member?]
    by_cases here : other = "extra_credit"
    · simp only [here, String.reduceEq, if_true, if_false, Field.json?]
    · simp only [here, if_false]
  exact record.put_toDict (by decide) rfl shown

theorem GradeEntry.put_needsManualGrade (entry : GradeEntry) (flag : Bool) :
    put ["needs_manual_grade"] (.bool flag) entry.toJson =
      { entry with needsManualGrade := .value flag }.toJson := by
  have shown : ∀ other, member? { entry with needsManualGrade := .value flag } other =
      if other = "needs_manual_grade" then some (.bool flag) else entry.member? other := by
    intro other
    simp only [member?]
    by_cases here : other = "needs_manual_grade"
    · simp only [here, String.reduceEq, if_true, if_false, Field.json?]
    · simp only [here, if_false]
  exact record.put_toDict (by decide) rfl shown

theorem CommentEntry.put_manualComment (entry : CommentEntry) (comment : String) :
    put ["manual_comment"] (.string comment) entry.toJson =
      { entry with manualComment := .value comment }.toJson := by
  have shown : ∀ other, member? { entry with manualComment := .value comment } other =
      if other = "manual_comment" then some (.string comment) else entry.member? other := by
    intro other
    simp only [member?]
    split_ifs <;> rfl
  exact record.put_toDict (by decide) rfl shown

/-! ## Notebooks -/

namespace NotebookGrades

variable {notebook : NotebookGrades} {path : List String} {content : Json}

/-! A notebook with another dictionary has this one in its place. -/

theorem insert_grades (grades : NotebookGrades) (entries : Dict GradeEntry) :
    grades.toDict.insert "grades_dict" (ofDict (entries.map GradeEntry.toJson)) =
      { grades with grades := entries }.toDict := by
  ext name
  simp only [Dict.get?_insert, get?_toDict]
  by_cases here : name = "grades_dict"
  · simp only [here, String.reduceEq, if_true, if_false]
  · simp only [here, if_false]

theorem insert_comments (grades : NotebookGrades) (comments : Dict CommentEntry) :
    grades.toDict.insert "comments_dict" (ofDict (comments.map CommentEntry.toJson)) =
      { grades with comments }.toDict :=
  Dict.insert_insert _ _ _ _

theorem put_grades {grades : Dict GradeEntry}
    (inner : put path content (ofDict (notebook.grades.map GradeEntry.toJson)) =
      ofDict (grades.map GradeEntry.toJson)) :
    put ("grades_dict" :: path) content notebook.toJson = { notebook with grades }.toJson := by
  rw [toJson, put_ofDict, get?_grades, Option.getD_some, inner, insert_grades]
  rfl

theorem put_comments {comments : Dict CommentEntry}
    (inner : put path content (ofDict (notebook.comments.map CommentEntry.toJson)) =
      ofDict (comments.map CommentEntry.toJson)) :
    put ("comments_dict" :: path) content notebook.toJson = { notebook with comments }.toJson := by
  rw [toJson, put_ofDict, get?_comments, Option.getD_some, inner, insert_comments]
  rfl

end NotebookGrades

/-! ## Ledgers -/

namespace Ledger

variable {ledger next : Ledger} {notebook cell field : String} {content : Json}

/-- The place of a member of a grade entry. -/
def gradePath (notebook cell field : String) : List String :=
  [notebook, "grades_dict", cell, field]

/-- The place of a member of a comment entry. -/
def commentPath (notebook cell field : String) : List String :=
  [notebook, "comments_dict", cell, field]

/-- Changing one member of a grade entry puts a leaf into the payload. -/
theorem puts_modifyGrade {change : GradeEntry → GradeEntry}
    (changed : ledger.modifyGrade notebook cell change = .ok next)
    (writes : ∀ entry, put [field] content entry.toJson = (change entry).toJson) :
    Puts [⟨gradePath notebook cell field, content⟩] ledger.toJson next.toJson := by
  rcases modifyGrade_eq_ok_iff.1 changed with ⟨⟨entry, graded⟩, rfl⟩
  rcases grade_eq_ok_iff.1 graded with ⟨grades, held, found⟩
  have room : ledger.toJson.HasRoom ⟨gradePath notebook cell field, content⟩ := by
    refine ⟨[notebook, "grades_dict", cell], field, entry.toDict.entries, rfl, ?_⟩
    simp only [toJson, Json.at?, Json.member?_ofDict, Dict.get?_map, held, found,
      NotebookGrades.toJson, NotebookGrades.get?_grades, Option.map_some, Option.bind_some]
    rfl
  have inner := NotebookGrades.put_grades (Json.put_ofDict_map found (writes entry))
  exact ⟨⟨room, trivial⟩, (Json.put_ofDict_map held inner).symm⟩

/-- Changing one member of a comment entry puts a leaf into the payload. -/
theorem puts_modifyComment {change : CommentEntry → CommentEntry}
    (changed : ledger.modifyComment notebook cell change = .ok next)
    (writes : ∀ entry, put [field] content entry.toJson = (change entry).toJson) :
    Puts [⟨commentPath notebook cell field, content⟩] ledger.toJson next.toJson := by
  rcases modifyComment_eq_ok_iff.1 changed with ⟨⟨entry, commented⟩, rfl⟩
  rcases commentEntry_eq_ok_iff.1 commented with ⟨grades, held, found⟩
  have room : ledger.toJson.HasRoom ⟨commentPath notebook cell field, content⟩ := by
    refine ⟨[notebook, "comments_dict", cell], field, entry.toDict.entries, rfl, ?_⟩
    simp only [toJson, Json.at?, Json.member?_ofDict, Dict.get?_map, held, found,
      NotebookGrades.toJson, NotebookGrades.get?_comments, Option.map_some, Option.bind_some]
    rfl
  have inner := NotebookGrades.put_comments (Json.put_ofDict_map found (writes entry))
  exact ⟨⟨room, trivial⟩, (Json.put_ofDict_map held inner).symm⟩

/-! ## Setters -/

/-- A manual score in its place. -/
def scoreLeaf (notebook cell : String) (score : Float) : Leaf :=
  ⟨gradePath notebook cell "manual_score", .ofFloat score⟩

/-- Extra credit in its place. -/
def extraCreditLeaf (notebook cell : String) (amount : Float) : Leaf :=
  ⟨gradePath notebook cell "extra_credit", .ofFloat amount⟩

/-- In its place, whether a cell waits for a grader. -/
def flagLeaf (notebook cell : String) (flag : Bool) : Leaf :=
  ⟨gradePath notebook cell "needs_manual_grade", .bool flag⟩

/-- A comment in its place. -/
def commentLeaf (notebook cell comment : String) : Leaf :=
  ⟨commentPath notebook cell "manual_comment", .string comment⟩

theorem ofFloat_of_finite {x : Float} (finite : x.isFinite = true) :
    Json.ofFloat x = .number (.double x finite) := by
  simp only [Json.ofFloat, Number.ofFloat?, finite, dite_true]

theorem puts_setManualScore {score : Float}
    (set : ledger.setManualScore notebook cell score = .ok next) :
    score.isFinite = true ∧ Puts [scoreLeaf notebook cell score] ledger.toJson next.toJson := by
  rcases Outcome.bind_eq_ok.1 set with ⟨_, checked, changed⟩
  rcases finite_eq_ok_iff.1 checked with ⟨finite, rfl⟩
  rw [scoreLeaf, ofFloat_of_finite finite]
  exact ⟨finite, puts_modifyGrade changed fun entry => entry.put_manualScore _⟩

theorem puts_setExtraCredit {amount : Float}
    (set : ledger.setExtraCredit notebook cell amount = .ok next) :
    amount.isFinite = true ∧
      Puts [extraCreditLeaf notebook cell amount] ledger.toJson next.toJson := by
  rcases Outcome.bind_eq_ok.1 set with ⟨_, checked, changed⟩
  rcases finite_eq_ok_iff.1 checked with ⟨finite, rfl⟩
  rw [extraCreditLeaf, ofFloat_of_finite finite]
  exact ⟨finite, puts_modifyGrade changed fun entry => entry.put_extraCredit _⟩

theorem puts_setComment {comment : String}
    (set : ledger.setComment notebook cell comment = .ok next) :
    Puts [commentLeaf notebook cell comment] ledger.toJson next.toJson :=
  puts_modifyComment set fun entry => entry.put_manualComment comment

end Ledger

end Gradebook
