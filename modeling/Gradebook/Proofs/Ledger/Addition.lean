import Gradebook.Proofs.Json.Addition
import Gradebook.Proofs.Ledger.Setter

namespace Gradebook

/-!
# What a new entry adds to a payload

A cell that is newly graded may lack its notebook, its comment entry and its grade entry.
Each of the three has one form and one place in the payload, and each is added where nothing
stands in its place and left alone where something does.  The main statement says that this
is all: without what was added the payload is the one from before.

From then on the cell has both entries, whatever is done to the ledger.  So everything that
asks for an entry of the cell finds it, and making sure of the cell once more adds nothing.
-/

open Json (Leaf Adds ofDict)

/-! ## New entries as they stand in a payload -/

/-- A comment entry that says nothing. -/
def CommentEntry.bare : Json :=
  .object [("manual_comment", .null)]

/-- A grade entry without scores.  It waits for a grader if the cell is graded by hand, and
it has the point budget of the cell if that is a finite number. -/
def GradeEntry.bare (tool : Tool) : Json :=
  let budget :=
    match tool.points with
    | some points => if points.isFinite then [("max_score", Json.ofFloat points)] else []
    | none => []
  .object ([("auto_score", .null), ("extra_credit", .number (.natural 0)),
      ("manual_score", .null)] ++ budget ++
    [("needs_manual_grade", .bool (tool.role = .manual || tool.role = .task))])

/-- A notebook without entries. -/
def NotebookGrades.bare : Json :=
  .object [("comments_dict", .object []), ("grades_dict", .object [])]

theorem CommentEntry.toJson_initial : initial.toJson = bare :=
  rfl

theorem GradeEntry.toJson_initial (tool : Tool) : (initial tool).toJson = bare tool := by
  rcases tool with ⟨id, role, points, locked⟩
  cases points with
  | none => rfl
  | some points =>
      cases finite : points.isFinite with
      | false =>
          simp only [initial, bare, Option.bind_some, Number.ofFloat?, finite,
            Bool.false_eq_true, dite_false, if_false]
          rfl
      | true =>
          simp only [initial, bare, Option.bind_some, Number.ofFloat?, Json.ofFloat, finite,
            dite_true, if_true]
          rfl

theorem NotebookGrades.toJson_empty : empty.toJson = bare :=
  rfl

/-! ## What a value lacks -/

namespace Json

/-- The leaves in whose places nothing stands. -/
def lacking (value : Json) (leaves : List Leaf) : List Leaf :=
  leaves.filter fun leaf => (value.at? leaf.path).isNone

variable {α : Type} {dict : Dict α} {toJson : α → Json} {name : String} {a next : α}
  {leaves : List Leaf}

theorem at?_ofDict_map (dict : Dict α) (toJson : α → Json) (name : String) (path : List String) :
    (ofDict (dict.map toJson)).at? (name :: path) =
      (dict.get? name).bind fun a => (toJson a).at? path := by
  rw [at?, member?_ofDict, Dict.get?_map, Option.bind_map]
  rfl

theorem lacking_under (found : dict.get? name = some a) (leaves : List Leaf) :
    (ofDict (dict.map toJson)).lacking (leaves.map (Leaf.under name)) =
      ((toJson a).lacking leaves).map (Leaf.under name) := by
  rw [lacking, lacking, List.filter_map]
  apply congrArg
  apply List.filter_congr
  intro leaf _
  rw [Function.comp_apply, Leaf.under, at?_ofDict_map, found, Option.bind_some]

/-- A dictionary takes a new value. -/
theorem adds_insert_map (missing : dict.get? name = none) :
    Adds [⟨[name], toJson a⟩] (ofDict (dict.map toJson)) (ofDict ((dict.insert name a).map toJson)) := by
  rw [Dict.map_insert]
  apply adds_insert
  rw [Dict.get?_map, missing, Option.map_none]

/-- What is added to a value of a dictionary is added to the dictionary. -/
theorem Adds.under_map (found : dict.get? name = some a)
    (adds : Adds leaves (toJson a) (toJson next)) :
    Adds (leaves.map (Leaf.under name)) (ofDict (dict.map toJson))
      (ofDict ((dict.insert name next).map toJson)) := by
  rw [Dict.map_insert]
  apply Adds.under _ adds
  rw [Dict.get?_map, found, Option.map_some]

end Json

/-! ## Notebooks -/

namespace NotebookGrades

/-- The entries of a cell in their places in a notebook. -/
def newLeaves (cell : String) (tool : Tool) : List Leaf :=
  [⟨["comments_dict", cell], CommentEntry.bare⟩, ⟨["grades_dict", cell], GradeEntry.bare tool⟩]

variable {grades : NotebookGrades} {cell : String}

theorem at?_comments (grades : NotebookGrades) (cell : String) :
    grades.toJson.at? ["comments_dict", cell] =
      (grades.comments.get? cell).map CommentEntry.toJson := by
  rw [toJson, Json.at?, Json.member?_ofDict, get?_comments, Option.bind_some,
    Json.at?_ofDict_map]
  exact Option.map_eq_bind.symm

theorem at?_grades (grades : NotebookGrades) (cell : String) :
    grades.toJson.at? ["grades_dict", cell] =
      (grades.grades.get? cell).map GradeEntry.toJson := by
  rw [toJson, Json.at?, Json.member?_ofDict, get?_grades, Option.bind_some,
    Json.at?_ofDict_map]
  exact Option.map_eq_bind.symm

theorem adds_comment (missing : grades.comments.get? cell = none) :
    Adds [⟨["comments_dict", cell], CommentEntry.bare⟩] grades.toJson
      { grades with
        comments := grades.comments.insert cell CommentEntry.initial }.toJson := by
  have added : Adds [⟨[cell], CommentEntry.initial.toJson⟩]
      (ofDict (grades.comments.map CommentEntry.toJson))
      (ofDict ((grades.comments.insert cell CommentEntry.initial).map CommentEntry.toJson)) :=
    Json.adds_insert_map missing
  have outer := added.under (get?_comments grades)
  rw [insert_comments, CommentEntry.toJson_initial] at outer
  exact outer

theorem adds_grade (missing : grades.grades.get? cell = none) (tool : Tool) :
    Adds [⟨["grades_dict", cell], GradeEntry.bare tool⟩] grades.toJson
      { grades with
        grades := grades.grades.insert cell (GradeEntry.initial tool) }.toJson := by
  have added : Adds [⟨[cell], (GradeEntry.initial tool).toJson⟩]
      (ofDict (grades.grades.map GradeEntry.toJson))
      (ofDict ((grades.grades.insert cell (GradeEntry.initial tool)).map GradeEntry.toJson)) :=
    Json.adds_insert_map missing
  have outer := added.under (get?_grades grades)
  rw [insert_grades, GradeEntry.toJson_initial] at outer
  exact outer

theorem get?_ensureEntry_of_ne (grades : NotebookGrades) {other : String} (differs : other ≠ cell)
    (tool : Tool) :
    (grades.ensureEntry cell tool).grades.get? other = grades.grades.get? other ∧
      (grades.ensureEntry cell tool).comments.get? other = grades.comments.get? other := by
  simp only [ensureEntry, Dict.get?_insert_of_missing, if_neg differs, and_self]

/-- A notebook gets the entries of a cell that it lacks. -/
theorem adds_ensureEntry (grades : NotebookGrades) (cell : String) (tool : Tool) :
    Adds (grades.toJson.lacking (newLeaves cell tool)) grades.toJson
      (grades.ensureEntry cell tool).toJson := by
  have uncommented : (grades.toJson.at? ["comments_dict", cell]).isNone =
      !grades.comments.contains cell := by
    rw [at?_comments, Option.isNone_map, Dict.contains_eq_isSome, Option.not_isSome]
  have ungraded : (grades.toJson.at? ["grades_dict", cell]).isNone =
      !grades.grades.contains cell := by
    rw [at?_grades, Option.isNone_map, Dict.contains_eq_isSome, Option.not_isSome]
  simp only [Json.lacking, newLeaves, List.filter_cons, List.filter_nil, uncommented, ungraded,
    ensureEntry]
  cases commented : grades.comments.contains cell with
  | true =>
      cases graded : grades.grades.contains cell with
      | true => exact .nil _
      | false => exact adds_grade (Dict.get?_of_not_contains graded) tool
  | false =>
      have added := adds_comment (Dict.get?_of_not_contains commented)
      cases graded : grades.grades.contains cell with
      | true => exact added
      | false =>
          let commented := { grades with
            comments := grades.comments.insert cell CommentEntry.initial }
          have more := @adds_grade commented cell (Dict.get?_of_not_contains graded) tool
          exact added.append more

end NotebookGrades

/-! ## Ledgers -/

namespace Ledger

/-- The notebook and the entries of a cell, in their places in a payload. -/
def newLeaves (notebook cell : String) (tool : Tool) : List Leaf :=
  ⟨[notebook], NotebookGrades.bare⟩ ::
    (NotebookGrades.newLeaves cell tool).map (Leaf.under notebook)

variable {ledger : Ledger} {notebook cell : String}

/-- A payload without a notebook lacks all that is in it. -/
theorem lacking_of_no_notebook (missing : ledger.notebooks.get? notebook = none)
    (tool : Tool) :
    ledger.toJson.lacking (newLeaves notebook cell tool) = newLeaves notebook cell tool := by
  have nothing : ∀ path, ledger.toJson.at? (notebook :: path) = none := by
    intro path
    rw [toJson, Json.at?_ofDict_map, missing, Option.bind_none]
  apply List.filter_eq_self.2
  intro leaf listed
  rcases List.mem_cons.1 listed with rfl | inside
  · rw [nothing, Option.isNone_none]
  · rcases List.mem_map.1 inside with ⟨inner, _, rfl⟩
    rw [Leaf.under, nothing, Option.isNone_none]

/-- A ledger gets what it lacks of a cell. -/
theorem adds_ensureEntry (ledger : Ledger) (notebook cell : String) (tool : Tool) :
    Adds (ledger.toJson.lacking (newLeaves notebook cell tool)) ledger.toJson
      (ledger.ensureEntry notebook cell tool).2.toJson := by
  cases held : ledger.notebooks.get? notebook with
  | some grades =>
      have present : (ledger.toJson.at? [notebook]).isNone = false := by
        rw [toJson, Json.at?_ofDict_map, held, Option.bind_some, Json.at?, Option.isNone_some]
      have added := (grades.adds_ensureEntry cell tool).under_map held
      rw [← Json.lacking_under held] at added
      simp only [newLeaves, Json.lacking, List.filter_cons, present, Bool.false_eq_true, if_false,
        ensureEntry, held, Option.getD_some]
      exact added
  | none =>
      have first : Adds [⟨[notebook], NotebookGrades.empty.toJson⟩] ledger.toJson
          (ofDict ((ledger.notebooks.insert notebook .empty).map NotebookGrades.toJson)) :=
        Json.adds_insert_map held
      rw [NotebookGrades.toJson_empty] at first
      have more := (NotebookGrades.adds_ensureEntry .empty cell tool).under_map
        (Dict.get?_insert_self ledger.notebooks notebook .empty)
      rw [Dict.insert_insert] at more
      rw [lacking_of_no_notebook held]
      simp only [ensureEntry, held, Option.getD_none]
      exact first.append more

/-- The entries of a cell in a payload. -/
theorem at?_toJson (ledger : Ledger) (notebook cell : String) :
    ledger.toJson.at? [notebook, "grades_dict", cell] =
        (ledger.notebooks.get? notebook).bind (fun grades =>
          (grades.grades.get? cell).map GradeEntry.toJson) ∧
      ledger.toJson.at? [notebook, "comments_dict", cell] =
        (ledger.notebooks.get? notebook).bind fun grades =>
          (grades.comments.get? cell).map CommentEntry.toJson := by
  simp only [toJson, Json.at?_ofDict_map, NotebookGrades.at?_grades, NotebookGrades.at?_comments,
    and_self]

/-- No other cell gets an entry, and none loses what it has. -/
theorem at?_ensureEntry_of_ne (ledger : Ledger) {otherNotebook otherCell : String}
    (elsewhere : otherNotebook = notebook → otherCell ≠ cell) (tool : Tool) :
    let next := (ledger.ensureEntry notebook cell tool).2
    next.toJson.at? [otherNotebook, "grades_dict", otherCell] =
        ledger.toJson.at? [otherNotebook, "grades_dict", otherCell] ∧
      next.toJson.at? [otherNotebook, "comments_dict", otherCell] =
        ledger.toJson.at? [otherNotebook, "comments_dict", otherCell] := by
  intro next
  simp only [at?_toJson]
  by_cases same : otherNotebook = notebook
  · subst same
    have held : next.notebooks.get? otherNotebook = some
        (((ledger.notebooks.get? otherNotebook).getD .empty).ensureEntry cell tool) :=
      Dict.get?_insert_self _ _ _
    have apart := NotebookGrades.get?_ensureEntry_of_ne
      ((ledger.notebooks.get? otherNotebook).getD .empty) (elsewhere rfl) tool
    rw [held, Option.bind_some, Option.bind_some, apart.1, apart.2]
    cases ledger.notebooks.get? otherNotebook with
    | none => exact ⟨rfl, rfl⟩
    | some grades => exact ⟨rfl, rfl⟩
  · have held : next.notebooks.get? otherNotebook = ledger.notebooks.get? otherNotebook :=
      Dict.get?_insert_of_ne _ _ same
    rw [held]
    exact ⟨rfl, rfl⟩

/-! ## Whatever is done next -/

/-- Something that is done to a ledger. -/
inductive Step
  | set (notebook cell : String) (setting : Setting)
  | ensureEntry (notebook cell : String) (tool : Tool)

/-- The ledger after one step.  A setter that fails leaves it as it was. -/
def Step.perform (ledger : Ledger) : Step → Ledger
  | .set notebook cell setting =>
    match setting.apply ledger notebook cell with
    | .ok next => next
    | .error _ => ledger
  | .ensureEntry notebook cell tool => (ledger.ensureEntry notebook cell tool).2

/-- The ledger after some steps. -/
def after (ledger : Ledger) (steps : List Step) : Ledger :=
  steps.foldl Step.perform ledger

theorem Step.ensured_perform (ensured : ledger.Ensured notebook cell) (step : Step) :
    (step.perform ledger).Ensured notebook cell := by
  cases step with
  | ensureEntry otherNotebook otherCell tool =>
      exact ensured_ensureEntry ensured otherNotebook otherCell tool
  | set otherNotebook otherCell setting =>
      simp only [perform]
      split
      · next changed => exact Setting.ensured_of_apply changed ensured
      · exact ensured

/-- Nothing takes the entries of a cell away. -/
theorem ensured_after (ensured : ledger.Ensured notebook cell) (steps : List Step) :
    (ledger.after steps).Ensured notebook cell := by
  induction steps generalizing ledger with
  | nil => exact ensured
  | cons step rest inductionHypothesis => exact inductionHypothesis (step.ensured_perform ensured)

/-- Whatever asks for an entry of a cell finds it.  A setter that fails does so for its
value. -/
structure Finds (ledger : Ledger) (notebook cell : String) : Prop where
  manualScore : ∃ score, ledger.manualScore notebook cell = .ok score
  autoScore : ∃ score, ledger.autoScore notebook cell = .ok score
  extraCredit : ∃ amount, ledger.extraCredit notebook cell = .ok amount
  needsManualGrade : ∃ flag, ledger.needsManualGrade notebook cell = .ok flag
  maxScore : ∃ points, ledger.maxScore notebook cell = .ok points
  comment : ∃ text, ledger.comment notebook cell = .ok text
  record : ∃ record, ledger.record notebook cell = .ok record
  set : ∀ setting : Setting,
    setting.check = .ok () ∧ (∃ next, setting.apply ledger notebook cell = .ok next) ∨
      ∃ error, setting.check = .error error ∧
        setting.apply ledger notebook cell = .error (.score error)

theorem Ensured.finds (ensured : ledger.Ensured notebook cell) : ledger.Finds notebook cell := by
  have graded : ∀ {α : Type} (view : GradeEntry → α),
      ∃ value, (ledger.grade notebook cell >>= fun entry => pure (view entry)) = .ok value := by
    intro α view
    rcases ensured.exists_grade with ⟨entry, found⟩
    exact ⟨view entry, by rw [found, Outcome.ok_bind]; rfl⟩
  have commented : ∃ text, ledger.comment notebook cell = .ok text := by
    rcases ensured.exists_commentEntry with ⟨entry, found⟩
    exact ⟨entry.manualComment.get?.getD "", by rw [comment, found, Outcome.ok_bind]; rfl⟩
  refine ⟨graded _, graded _, graded _, graded _, graded _, commented,
    exists_record_of_grade ensured.exists_grade, fun setting => ?_⟩
  cases checked : setting.check with
  | ok _ => exact .inl ⟨rfl, setting.exists_apply ensured checked⟩
  | error error => exact .inr ⟨error, rfl, Setting.apply_of_check_error checked⟩

theorem contains_iff : ledger.contains notebook cell = true ↔
    ∃ entry, ledger.grade notebook cell = .ok entry := by
  simp only [grade_eq_ok_iff, contains]
  cases ledger.notebooks.get? notebook with
  | none => simp only [Bool.false_eq_true, reduceCtorEq, false_and, exists_false]
  | some grades =>
      simp only [Option.some.injEq, exists_eq_left', Dict.contains_iff_exists]

/-- Making sure of a cell that is ensured does nothing at all. -/
theorem ensureEntry_eq_of_ensured (ensured : ledger.Ensured notebook cell) (tool : Tool) :
    ledger.ensureEntry notebook cell tool = (false, ledger) := by
  have graded := contains_iff.2 ensured.exists_grade
  apply Prod.ext
  · simp only [ensureEntry, graded, Bool.not_true]
  · exact ensureEntry_of_ensured ensured tool

/-- Making sure of a cell adds to the payload what it lacks of the notebook, the comment
entry and the grade entry, in their initial forms, and nothing else: what stood there stands
there still, and without what was added the payload is as before.  The answer tells whether
the cell had no grade entry.  Then, and after any further steps, whatever asks for an entry of
the cell finds it, and making sure of the cell once more, with whatever tool, changes
nothing. -/
theorem ensureEntry_only_adds (ledger : Ledger) (notebook cell : String) (tool : Tool) :
    let next := (ledger.ensureEntry notebook cell tool).2
    let added := ledger.toJson.lacking (newLeaves notebook cell tool)
    ((ledger.ensureEntry notebook cell tool).1 = true ↔
        ¬ ∃ entry, ledger.grade notebook cell = .ok entry) ∧
      Adds added ledger.toJson next.toJson ∧
      (∀ path value, ledger.toJson.at? path = some value →
        (∀ leaf ∈ added, ¬ path <+: leaf.path) → next.toJson.at? path = some value) ∧
      Json.removeAll (added.map Leaf.path) next.toJson = ledger.toJson ∧
      ∀ steps, (next.after steps).Finds notebook cell ∧
        ∀ other, (next.after steps).ensureEntry notebook cell other =
          (false, next.after steps) := by
  intro next added
  have adds : Adds added ledger.toJson next.toJson := adds_ensureEntry ledger notebook cell tool
  have ensured : next.Ensured notebook cell := ensured_ensureEntry_self ledger notebook cell tool
  refine ⟨?_, adds, fun path value found apart => adds.kept found apart, adds.removed,
    fun steps => ?_⟩
  · rw [← contains_iff, ensureEntry, Bool.not_eq_true', Bool.not_eq_true]
  · have still := ensured_after ensured steps
    exact ⟨still.finds, fun other => ensureEntry_eq_of_ensured still other⟩

end Ledger

end Gradebook
