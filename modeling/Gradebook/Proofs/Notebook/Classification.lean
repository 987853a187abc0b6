import Gradebook.Notebook.Basic
import Gradebook.Proofs.Json.Path

namespace Gradebook

/-!
# Classification and authoring

Five roles are marked by four flags, and what the flags mean depends on the content of
the cell.  An author goes the other way: for a role that a cell has been found to have,
the metadata is written that marks this role and no other one.

The main statement says that authoring undoes classification.  What a cell was found to
be is written down, read back and classified again, and the cell is found to be the same,
whatever the metadata was from which it was classified at first.  The metadata itself is
not restored: where it was malformed or said too much, the author writes something else.

A role that was found in a cell of some content is found again in code.  Only the tests
of an autograder need this care, and these occur in code alone.
-/

namespace GradingMetadata

variable {data other : GradingMetadata} {content : Content} {tool : Tool}

/-! ## Reading metadata that was written -/

/-- Metadata that its JSON object can hold.  An empty identity would be read as none, and
a budget that is not finite cannot be written. -/
structure Writable (data : GradingMetadata) : Prop where
  identity : data.gradeId ≠ some ""
  finite : ∀ points, data.points = some points → points.isFinite = true

theorem member?_toJson (data : GradingMetadata) (name : String) :
    data.toJson.member? name =
      [("grade_id", Json.ofOption .string data.gradeId), ("grade", .bool data.grade),
        ("solution", .bool data.solution), ("locked", .bool data.locked),
        ("task", .bool data.task), ("points", .ofOption .ofFloat data.points),
        ("schema_version", .number (.natural data.schemaVersion.toUInt64))].lookup name := by
  rw [toJson, Json.member?_ofDict, Dict.get?_ofList_of_nodup]
  simp only [List.map_cons, List.map_nil]
  decide

theorem string?_ofOption {text : Option String} (named : text ≠ some "") :
    (Json.ofOption .string text).string?.filter (· ≠ "") = text := by
  cases text with
  | none => rfl
  | some text =>
      have kept : text ≠ "" := fun empty => named (congrArg some empty)
      simp only [Json.ofOption, Json.string?, Option.filter_some, decide_eq_true_eq, if_pos kept]

theorem float?_ofOption {points : Option Float}
    (finite : ∀ x, points = some x → x.isFinite = true) :
    (Json.ofOption .ofFloat points).float? = points := by
  cases points with
  | none => rfl
  | some x =>
      simp only [Json.ofOption, Json.ofFloat, Number.ofFloat?, finite x rfl, dite_true,
        Json.float?, Number.toFloat]

theorem ofMembers_toJson (writable : data.Writable) : ofMembers data.toJson = data := by
  rcases data with ⟨gradeId, grade, solution, locked, task, points, schemaVersion⟩
  have version : schemaVersion.toUInt64.toNat < UInt32.size := schemaVersion.toNat_lt
  simp only [ofMembers, member?_toJson, List.lookup_cons, String.reduceBEq, Option.bind_some,
    string?_ofOption writable.identity, float?_ofOption writable.finite, Json.bool?,
    Json.natural?, Option.getD_some, version, if_true, UInt32.toUInt32_toUInt64]

/-- What was written under its key is read as it was. -/
theorem ofMetadata?_of_member {metadata : Json} (writable : data.Writable)
    (stands : metadata.member? metadataKey = some data.toJson) :
    ofMetadata? metadata = some data := by
  have read := ofMembers_toJson writable
  rw [toJson, Json.ofDict] at stands read
  simp only [ofMetadata?, stands, read]

/-! ## What a cell is found to be -/

/-- What classification can make of a cell. -/
inductive Classifies (data : GradingMetadata) (content : Content) : Tool → Prop
  | apart (outside : data.role content = .unclassified ∨ data.gradeId = none) :
    Classifies data content .unclassified
  | graded {id : String} (marked : data.role content ≠ .unclassified)
    (identified : data.gradeId = some id) :
    Classifies data content
      { id := some id
        role := data.role content
        points := if (data.role content).hasPoints then some data.budget else none
        locked := data.locked }

theorem classifies (data : GradingMetadata) (content : Content) :
    data.Classifies content (data.classify content) := by
  unfold classify
  split
  · next _ unmarked => exact .apart (.inl unmarked)
  · next nameless _ => exact .apart (.inr nameless)
  · next identified marked => exact .graded marked identified

/-- A cell with a marked role and an identity is graded. -/
theorem classify_of_marked {id : String} (marked : data.role content ≠ .unclassified)
    (identified : data.gradeId = some id) :
    data.classify content =
      { id := some id
        role := data.role content
        points := if (data.role content).hasPoints then some data.budget else none
        locked := data.locked } := by
  have made := classifies data content
  generalize data.classify content = tool at made
  cases made with
  | apart outside =>
      rcases outside with unmarked | nameless
      · exact absurd unmarked marked
      · cases identified.symm.trans nameless
  | graded _ again =>
      cases identified.symm.trans again
      rfl

/-- Tests are found in code only. -/
theorem eq_code_of_role (found : data.role content = .tests) : content = .code := by
  unfold role at found
  split_ifs at found with _ code
  exact code

/-- A cell without another role is locked. -/
theorem locked_of_role (found : data.role content = .readonly) : data.locked = true := by
  unfold role at found
  split_ifs at found with _ _ _ _ _ locked
  exact locked

theorem isFinite_budget (data : GradingMetadata) : data.budget.isFinite = true := by
  unfold budget
  cases data.points with
  | none => decide
  | some points =>
      simp only [Bool.and_eq_true, decide_eq_true_eq]
      split_ifs with kept
      · exact kept.1
      · decide

/-- A budget is its own budget. -/
theorem budget_of_points (same : other.points = some data.budget) : other.budget = data.budget := by
  have settled : data.budget = 0 ∨ (data.budget.isFinite && 0 < data.budget) = true := by
    unfold budget
    cases data.points with
    | none => exact .inl rfl
    | some points =>
        simp only
        split_ifs with kept
        · exact .inr kept
        · exact .inl rfl
  have written : ∀ x, other.points = some x →
      other.budget = if x.isFinite && 0 < x then x else 0 := by
    intro x given
    rw [budget, given]
  rw [written _ same]
  rcases settled with zero | kept
  · rw [zero, ite_self]
  · rw [if_pos kept]

/-- An identity that was read is not empty. -/
theorem gradeId_of_ofMetadata? {metadata : Json} (read : ofMetadata? metadata = some data) :
    data.gradeId ≠ some "" := by
  unfold ofMetadata? at read
  split at read
  · cases read
    intro empty
    have kept := (Option.filter_eq_some_iff.1 empty).2
    simp only [ne_eq, not_true_eq_false, decide_false, Bool.false_eq_true] at kept
  · cases read

/-! ## What an author writes -/

/-- Metadata for a role has the identity and the budget of the cell, and marks this role in
code and in every content in which the role can be found. -/
structure Authored (tool : Tool) (data : GradingMetadata) : Prop where
  gradeId : data.gradeId = tool.id
  points : data.points = tool.points
  locked : data.locked = (decide (tool.role = .readonly) || tool.locked)
  role : ∀ content, (tool.role = .tests → content = .code) → data.role content = tool.role

theorem ofTool?_of_unclassified (apart : tool.role = .unclassified) : ofTool? tool = none := by
  simp only [ofTool?, apart]

theorem exists_ofTool? (graded : tool.role ≠ .unclassified) :
    ∃ data, ofTool? tool = some data ∧ Authored tool data := by
  rcases tool with ⟨id, role, points, locked⟩
  cases role with
  | unclassified => exact absurd rfl graded
  | manual => exact ⟨_, rfl, rfl, rfl, rfl, fun _ _ => rfl⟩
  | task => exact ⟨_, rfl, rfl, rfl, rfl, fun _ _ => rfl⟩
  | solution => exact ⟨_, rfl, rfl, rfl, rfl, fun _ _ => rfl⟩
  | readonly => exact ⟨_, rfl, rfl, rfl, rfl, fun _ _ => rfl⟩
  | tests =>
      refine ⟨_, rfl, rfl, rfl, rfl, fun content only => ?_⟩
      exact if_pos (only rfl)

/-- What an author writes for a cell that was classified can be written, and is classified
as the cell was. -/
theorem Authored.restores {content : Content} (identity : data.gradeId ≠ some "")
    (graded : (data.classify content).role ≠ .unclassified)
    (authored : Authored (data.classify content) other) :
    other.Writable ∧
      ∀ place, place = content ∨ place = .code →
        other.classify place = data.classify content := by
  have made := classifies data content
  generalize data.classify content = tool at made graded authored
  cases made with
  | apart => exact absurd rfl graded
  | @graded id marked identified =>
      constructor
      · refine ⟨authored.gradeId ▸ identified ▸ identity, fun points given => ?_⟩
        rw [authored.points] at given
        split_ifs at given
        cases given
        exact isFinite_budget data
      · intro place allowed
        have found : other.role place = data.role content := by
          apply authored.role
          intro tests
          exact allowed.elim (fun same => same.trans (eq_code_of_role tests)) fun code => code
        have unlocked : other.locked = data.locked := by
          rw [authored.locked]
          by_cases readonly : data.role content = .readonly
          · rw [locked_of_role readonly, Bool.or_true]
          · rw [decide_eq_false readonly, Bool.false_or]
        rw [classify_of_marked (found ▸ marked) authored.gradeId, found, unlocked]
        congr 1
        split_ifs with budgeted
        · have same : other.points = some data.budget := authored.points.trans (if_pos budgeted)
          rw [budget_of_points same]
        · rfl

end GradingMetadata

/-! ## Cells -/

namespace Cell

open GradingMetadata (ofTool? metadataKey)

/-- Authoring undoes classification.  For a cell that was found to have a role an author
writes metadata.  A cell whose metadata has the object of this metadata under its key, and
whose content is the same or code, is found to be the same: under the same identity, in
the same role, with the same budget, locked or not.  For a cell that takes no part in
grading nothing is written. -/
theorem tool_of_authored (cell : Cell) :
    (cell.tool.role = .unclassified → ofTool? cell.tool = none) ∧
      (cell.tool.role ≠ .unclassified →
        ∃ data, ofTool? cell.tool = some data ∧
          ∀ metadata : Json, metadata.member? metadataKey = some data.toJson →
            ∀ content, content = cell.content ∨ content = .code →
              Cell.tool { cell with metadata, content } = cell.tool) := by
  refine ⟨GradingMetadata.ofTool?_of_unclassified, fun graded => ?_⟩
  rcases GradingMetadata.exists_ofTool? graded with ⟨data, written, authored⟩
  refine ⟨data, written, fun metadata stands content allowed => ?_⟩
  cases read : cell.grading? with
  | none =>
      simp only [tool, read] at graded
      exact absurd rfl graded
  | some earlier =>
      have found : cell.tool = earlier.classify cell.content := by
        simp only [tool, read]
      rw [found] at graded authored ⊢
      have identity := GradingMetadata.gradeId_of_ofMetadata? read
      rcases authored.restores identity graded with ⟨writable, restored⟩
      have again : ({ cell with metadata, content } : Cell).grading? = some data :=
        GradingMetadata.ofMetadata?_of_member writable stands
      simp only [tool, again]
      exact restored content allowed

/-- Prose that is marked both as graded and as a solution is an answer graded by hand.  It is
still one when it is written for code, where the metadata that it had would mark tests. -/
theorem tool_of_authored_of_prose :
    let members : Json := .object [("grade", .bool true), ("grade_id", .string "q1"),
      ("points", .number (.negative 2)), ("solution", .bool true)]
    let cell : Cell := ⟨none, .markdown, .object [(metadataKey, members)], .text ""⟩
    cell.tool.role = .manual ∧ (Cell.tool { cell with content := .code }).role = .tests ∧
      ∃ data, ofTool? cell.tool = some data ∧
        Cell.tool { cell with
          metadata := .object [(metadataKey, data.toJson)]
          content := .code } = cell.tool := by
  intro members cell
  have manual : cell.tool.role = .manual := by decide +kernel
  have tests : (Cell.tool { cell with content := .code }).role = .tests := by decide +kernel
  have graded : cell.tool.role ≠ .unclassified := by
    rw [manual]
    decide
  rcases (tool_of_authored cell).2 graded with ⟨data, written, restored⟩
  exact ⟨manual, tests, data, written, restored _ rfl .code (.inr rfl)⟩

end Cell

end Gradebook
