import Gradebook.Proofs.Json.Addition
import Gradebook.Proofs.Json.Reading
import Gradebook.Proofs.Notebook.Classification
import Gradebook.Proofs.Score

namespace Gradebook

/-!
# What holds of every classified cell

Grading metadata comes from outside and may be of any shape.  What is derived from it is
not: identity, role, budget and lock of a cell always fit together, and a budget is a number
that a score can be compared with.  Whoever adds entries to a ledger or checks a score relies
on this without looking at the metadata again.

A member that does not have its type counts as one that is missing.  This is said of the
metadata as they are read and not only of the role, so it also covers the members that are
read and play no part in the classification.

Cells are classified one by one, so all of this is about one cell.  What is left to say of a
notebook is that its cells are those of the document, in the order in which they stand.
-/

/-! ## Identity, role, budget and lock -/

/-- How the parts of a tool fit together in a cell of some content. -/
structure Tool.Consistent (content : Content) (tool : Tool) : Prop where
  identified : (∃ id, tool.id = some id ∧ id ≠ "") ↔ tool.role ≠ .unclassified
  budgeted : (∃ points, tool.points = some points) ↔
    tool.role = .manual ∨ tool.role = .task ∨ tool.role = .tests
  budget : ∀ points, tool.points = some points → points.isFinite = true ∧ 0 ≤ points
  tests : tool.role = .tests → content = .code
  readonly : tool.role = .readonly → tool.locked = true
  apart : tool.role = .unclassified →
    tool.id = none ∧ tool.points = none ∧ tool.locked = false

theorem Tool.consistent_unclassified (content : Content) : unclassified.Consistent content where
  identified := iff_of_false (fun ⟨_, impossible, _⟩ => nomatch impossible) (absurd rfl)
  budgeted := iff_of_false (fun ⟨_, impossible⟩ => nomatch impossible) (by decide)
  budget := nofun
  tests := nofun
  readonly := nofun
  apart _ := ⟨rfl, rfl, rfl⟩

theorem CellRole.hasPoints_eq_true_iff {role : CellRole} :
    role.hasPoints = true ↔ role = .manual ∨ role = .task ∨ role = .tests := by
  cases role <;> decide

namespace GradingMetadata

variable {data : GradingMetadata} {content : Content}

theorem zero_le_budget (data : GradingMetadata) : 0 ≤ data.budget := by
  unfold budget
  cases data.points with
  | none => decide
  | some points =>
      simp only [Bool.and_eq_true, decide_eq_true_eq]
      split_ifs with kept
      · exact Score.le_of_lt kept.2
      · decide

/-- What a cell is classified as is consistent, unless it has the empty identity. -/
theorem consistent_classify (identity : data.gradeId ≠ some "") (content : Content) :
    (data.classify content).Consistent content := by
  have made := classifies data content
  generalize data.classify content = tool at made
  cases made with
  | apart => exact Tool.consistent_unclassified content
  | @graded id marked identified =>
      refine ⟨?identified, ?budgeted, ?budget, eq_code_of_role, locked_of_role,
        fun unmarked => absurd unmarked marked⟩
      case identified =>
        have named : id ≠ "" := fun empty => identity (identified.trans (congrArg some empty))
        exact iff_of_true ⟨id, rfl, named⟩ marked
      case budgeted =>
        rw [← CellRole.hasPoints_eq_true_iff]
        split_ifs with takes
        · exact iff_of_true ⟨_, rfl⟩ takes
        · exact iff_of_false (fun ⟨_, impossible⟩ => nomatch impossible) takes
      case budget =>
        intro points given
        split_ifs at given
        cases given
        exact ⟨isFinite_budget data, zero_le_budget data⟩

/-! ## Members of other types -/

/-- Whether a value has the type of a member of grading metadata.  Nothing has the type of a
member that grading metadata does not have. -/
def HasType (name : String) (value : Json) : Prop :=
  if name = "grade_id" then ∃ text, value = .string text
  else if name ∈ ["grade", "solution", "locked", "task"] then ∃ flag, value = .bool flag
  else if name = "points" then ∃ n, value = .number n
  else if name = "schema_version" then ∃ n, value = .number (.natural n)
  else False

theorem string?_eq_none {value : Json} (other : ¬ HasType "grade_id" value) :
    value.string? = none := by
  cases value with
  | string text => exact absurd ⟨text, rfl⟩ other
  | null | bool b | number n | array items | object members => rfl

theorem bool?_eq_none {name : String} {value : Json}
    (flag : name ∈ ["grade", "solution", "locked", "task"]) (other : ¬ HasType name value) :
    value.bool? = none := by
  cases value with
  | bool b =>
      have differs : name ≠ "grade_id" := fun same => absurd (same ▸ flag) (by decide)
      rw [HasType, if_neg differs, if_pos flag] at other
      exact absurd ⟨b, rfl⟩ other
  | null | number n | string text | array items | object members => rfl

theorem float?_eq_none {value : Json} (other : ¬ HasType "points" value) :
    value.float? = none := by
  cases value with
  | number n => exact absurd ⟨n, rfl⟩ other
  | null | bool b | string text | array items | object members => rfl

theorem natural?_eq_none {value : Json} (other : ¬ HasType "schema_version" value) :
    value.natural? = none := by
  cases value with
  | number n =>
      cases n with
      | natural n => exact absurd ⟨n, rfl⟩ other
      | negative k | double x finite => rfl
  | null | bool b | string text | array items | object members => rfl

/-- A member that cannot be read may as well be missing. -/
theorem bind_member?_remove {α : Type} {members : Json} {name : String} (key : String)
    (read : Json → Option α)
    (unread : key = name → ∀ value, members.member? name = some value → read value = none) :
    ((Json.remove [name] members).member? key).bind read = (members.member? key).bind read := by
  by_cases same : key = name
  · subst same
    rw [Json.member?_remove_self, Option.bind_none]
    cases found : members.member? key with
    | none => rfl
    | some value => exact (unread rfl value found).symm
  · rw [Json.member?_remove_of_ne same]

/-- A member that does not have its type may as well be missing. -/
theorem ofMembers_remove {members : Json} {name : String}
    (other : ∀ value, members.member? name = some value → ¬ HasType name value) :
    ofMembers (Json.remove [name] members) = ofMembers members := by
  have identity := bind_member?_remove "grade_id" Json.string?
    fun same value found => string?_eq_none (same ▸ other value found)
  have flag : ∀ key ∈ ["grade", "solution", "locked", "task"],
      ((Json.remove [name] members).member? key).bind Json.bool? =
        (members.member? key).bind Json.bool? := fun key listed =>
    bind_member?_remove key Json.bool? fun same value found =>
      bool?_eq_none (same ▸ listed) (other value found)
  have points := bind_member?_remove "points" Json.float?
    fun same value found => float?_eq_none (same ▸ other value found)
  have version := bind_member?_remove "schema_version" Json.natural?
    fun same value found => natural?_eq_none (same ▸ other value found)
  simp only [ofMembers, identity, points, version, flag "grade" (by decide),
    flag "solution" (by decide), flag "locked" (by decide), flag "task" (by decide)]

theorem ofMetadata?_eq_none {metadata : Json}
    (other : ∀ members, metadata.member? metadataKey ≠ some (.object members)) :
    ofMetadata? metadata = none := by
  unfold ofMetadata?
  split
  · next members found => exact absurd found (other members)
  · rfl

theorem ofMetadata?_remove {metadata : Json} {name : String}
    (other : ∀ value, metadata.at? [metadataKey, name] = some value → ¬ HasType name value) :
    ofMetadata? (Json.remove [metadataKey, name] metadata) = ofMetadata? metadata := by
  have inside := Json.member?_remove_inside (List.cons_ne_nil name []) metadataKey metadata
  cases found : metadata.member? metadataKey with
  | none =>
      rw [found, Option.map_none] at inside
      rw [ofMetadata?_eq_none fun _ => by rw [inside]; nofun,
        ofMetadata?_eq_none fun _ => by rw [found]; nofun]
  | some grading =>
      rw [found, Option.map_some] at inside
      cases grading with
      | object members =>
          have unchanged : ofMembers (Json.remove [name] (.object members)) =
              ofMembers (.object members) := by
            apply ofMembers_remove
            intro value stands
            apply other value
            rw [Json.at?, found, Option.bind_some, Json.at?, stands]
            rfl
          simp only [ofMetadata?, inside, found]
          exact congrArg some unchanged
      | null | bool b | number n | string text | array items =>
          simp only [ofMetadata?, inside, found, Json.remove]

end GradingMetadata

/-! ## Cells -/

namespace Cell

open GradingMetadata (metadataKey HasType)

/-- Whether other metadata say the same about a cell. -/
def SaysSame (cell : Cell) (metadata : Json) : Prop :=
  Cell.grading? { cell with metadata } = cell.grading? ∧
    Cell.tool { cell with metadata } = cell.tool

/-- What does not have its type counts as missing: the metadata of a cell, the grading
metadata in them, and each member of these. -/
structure Lenient (cell : Cell) : Prop where
  metadata : (∀ members, cell.metadata ≠ .object members) → cell.SaysSame .null
  grading : (∀ members, cell.metadata.member? metadataKey ≠ some (.object members)) →
    cell.SaysSame (Json.remove [metadataKey] cell.metadata)
  member : ∀ name, (∀ value, cell.metadata.at? [metadataKey, name] = some value →
    ¬ HasType name value) → cell.SaysSame (Json.remove [metadataKey, name] cell.metadata)

theorem saysSame_of_grading? {cell : Cell} {metadata : Json}
    (same : GradingMetadata.ofMetadata? metadata = cell.grading?) : cell.SaysSame metadata := by
  refine ⟨same, ?_⟩
  simp only [tool, grading?] at same ⊢
  rw [same]

theorem lenient (cell : Cell) : cell.Lenient where
  metadata other := by
    apply saysSame_of_grading?
    refine (GradingMetadata.ofMetadata?_eq_none fun _ impossible => ?_).symm
    cases stands : cell.metadata with
    | object members => exact other members stands
    | null | bool b | number n | string text | array items =>
        rw [stands] at impossible
        cases impossible
  grading other := by
    apply saysSame_of_grading?
    rw [grading?, GradingMetadata.ofMetadata?_eq_none other]
    refine GradingMetadata.ofMetadata?_eq_none fun _ impossible => ?_
    rw [Json.member?_remove_self] at impossible
    cases impossible
  member _ other := saysSame_of_grading? (GradingMetadata.ofMetadata?_remove other)

theorem consistent_tool (cell : Cell) : cell.tool.Consistent cell.content := by
  unfold tool
  cases read : cell.grading? with
  | none => exact Tool.consistent_unclassified cell.content
  | some data =>
      exact GradingMetadata.consistent_classify (GradingMetadata.gradeId_of_ofMetadata? read)
        cell.content

end Cell

/-! ## Notebooks -/

namespace Notebook

open Json (Document Key Ending Elements Origin foldMembers)

variable {origin : Origin} {ending : Ending}

/-- The items of a list. -/
def items? : Document → Option (List Document)
  | .array items _ => some items
  | _ => none

/-- Whether a member has the name of the list of cells. -/
def isCells (member : Key × Document) : Bool :=
  member.1.content.toOption = some "cells"

/-- The cells as they stand in the document of a notebook. -/
def cellItems? : Document → Option (List Document)
  | .object members _ => (members.find? isCells).bind fun member => items? member.2
  | .array elements _ => elements.head?.bind items?
  | _ => none

/-- Whether cells are read from items, in order. -/
def ReadFrom (items : List Document) (cells : List Cell) : Prop :=
  ∃ origin : Origin, List.Forall₂ (fun item cell => Cell.reader origin item = .ok cell) items cells

theorem exists_items_of_sequence {document : Document} {cells : List Cell}
    (read : Json.sequenceReader Cell.reader origin document = .ok cells) :
    ∃ items, items? document = some items ∧ ReadFrom items cells := by
  rcases Json.exists_of_sequenceReader read with ⟨inner, items, ending, rfl, _, matched⟩
  exact ⟨items, rfl, inner, matched⟩

theorem cells_of_read_of_ne {state next : Fields} {name : String} {document : Document}
    (other : name ≠ "cells") (stepped : Fields.read origin state name document = .ok next) :
    next.cells = state.cells := by
  unfold Fields.read at stepped
  split at stepped
  · exact absurd rfl other
  · rcases Outcome.bind_eq_ok.1 stepped with ⟨_, _, ⟨rfl⟩⟩
    rfl
  · rcases Outcome.bind_eq_ok.1 stepped with ⟨_, _, ⟨rfl⟩⟩
    rfl

/-- The cells are read once and kept. -/
theorem cells_of_foldMembers {members : List (Key × Document)} {state final : Fields}
    {cells : List Cell} (held : state.cells = some cells)
    (folded : foldMembers (Fields.read origin) ending state members = .ok final) :
    final.cells = some cells := by
  have kept : ∀ (state : Fields) name document next, state.cells = some cells →
      Fields.read origin state name document = .ok next → next.cells = some cells := by
    intro state name document next held stepped
    by_cases here : name = "cells"
    · subst here
      rcases Outcome.bind_eq_ok.1 stepped with ⟨_, stored, _⟩
      cases held.symm.trans (Json.once_eq_ok_iff.1 stored).1
    · exact (cells_of_read_of_ne here stepped).trans held
  exact Json.foldMembers_induction kept held folded

/-- The cells of an object are those of its first member of this name. -/
theorem exists_items_of_foldMembers {members : List (Key × Document)} {state final : Fields}
    {cells : List Cell} (fresh : state.cells = none) (held : final.cells = some cells)
    (folded : foldMembers (Fields.read origin) ending state members = .ok final) :
    ∃ items, cellItems? (.object members ending) = some items ∧ ReadFrom items cells := by
  induction members generalizing state with
  | nil =>
      simp only [foldMembers, Outcome.bind_eq_ok, Outcome.pure_eq_ok] at folded
      rcases folded with ⟨_, _, rfl⟩
      cases fresh.symm.trans held
  | cons member rest inductionHypothesis =>
      rcases member with ⟨key, document⟩
      simp only [foldMembers, Outcome.bind_eq_ok] at folded
      rcases folded with ⟨name, named, next, stepped, folded⟩
      have content : key.content.toOption = some name := by
        rw [Json.content_of_text named]
        rfl
      by_cases here : name = "cells"
      · subst here
        rcases Outcome.bind_eq_ok.1 stepped with ⟨slot, stored, ⟨rfl⟩⟩
        rcases (Json.once_eq_ok_iff.1 stored).2 with ⟨first, read, rfl⟩
        cases held.symm.trans (cells_of_foldMembers rfl folded)
        rcases exists_items_of_sequence read with ⟨items, listed, readFrom⟩
        refine ⟨items, ?_, readFrom⟩
        have first : isCells (key, document) = true := decide_eq_true content
        rw [cellItems?, List.find?_cons_of_pos first, Option.bind_some, listed]
      · have unread := (cells_of_read_of_ne here stepped).trans fresh
        rcases inductionHypothesis unread folded with ⟨items, listed, readFrom⟩
        refine ⟨items, ?_, readFrom⟩
        have other : ¬ isCells (key, document) = true := fun same =>
          here (Option.some.inj (content.symm.trans (of_decide_eq_true same)))
        rw [cellItems?, List.find?_cons_of_neg other]
        exact listed

theorem exists_items_of_ofElements {elements : Elements} {notebook : Notebook}
    (read : ofElements elements = .ok notebook) :
    ∃ items, elements.items.head?.bind items? = some items ∧ ReadFrom items notebook.cells := by
  simp only [ofElements, Outcome.bind_eq_ok, Outcome.pure_eq_ok] at read
  rcases read with ⟨⟨cells, rest⟩, taken, _, _, _, _, rfl⟩
  rcases Json.nextRequired_eq_ok_iff.1 taken with ⟨item, others, stands, readItem, _⟩
  rw [stands]
  exact exists_items_of_sequence readItem

/-- A notebook has the cells that stand in its document. -/
theorem exists_items_of_reader {document : Document} {notebook : Notebook}
    (read : reader origin document = .ok notebook) :
    ∃ items, cellItems? document = some items ∧ ReadFrom items notebook.cells := by
  cases document with
  | object members ending =>
      rcases Outcome.bind_eq_ok.1 read with ⟨inner, _, readMembers⟩
      rcases Outcome.bind_eq_ok.1 readMembers with ⟨fields, folded, made⟩
      rcases Outcome.bind_eq_ok.1 made with ⟨cells, required, ⟨rfl⟩⟩
      exact exists_items_of_foldMembers rfl (Json.required_eq_ok_iff.1 required) folded
  | array elements ending =>
      rcases Outcome.bind_eq_ok.1 read with ⟨inner, _, readElements⟩
      exact exists_items_of_ofElements readElements
  | null | bool b | number n | string content | broken fault =>
      exact absurd read Json.refuse_ne_ok

/-- Whether a tool is the one of the cell that is read from an item of a document.  It is
consistent, and what does not have its type in the metadata of the cell counts as missing. -/
def IsToolOf (origin : Origin) (item : Document) (tool : Tool) : Prop :=
  ∃ cell, Cell.reader origin item = .ok cell ∧ cell.tool = tool ∧
    tool.Consistent cell.content ∧ cell.Lenient

/-- The classification of a notebook that was read from a text.  There is one tool for each
item of the list of cells in the document, in the order in which they stand.  Whatever the
metadata of a cell hold, its tool is consistent, and a member of another type has exactly the
effect of a missing one. -/
theorem tools_consistent {text : String} {notebook : Notebook}
    (read : ofText text = .ok notebook) :
    ∃ items, cellItems? (Json.parse text).document = some items ∧
      ∃ origin, List.Forall₂ (IsToolOf origin) items notebook.tools := by
  rcases exists_items_of_reader (Json.readText_eq_ok_iff.1 read).1 with
    ⟨items, listed, origin, readCells⟩
  refine ⟨items, listed, origin, ?_⟩
  rw [tools, List.forall₂_map_right_iff]
  exact readCells.imp fun item cell readCell =>
    ⟨cell, readCell, rfl, cell.consistent_tool, cell.lenient⟩

/-- A notebook whose metadata are not of the usual shape: a negative budget and a lock that is
a text, a list in place of the metadata, and an identity that is empty. -/
def malformed : String :=
  let cell (content : String) (metadata : Json) : Json :=
    .object [("cell_type", .string content), ("metadata", metadata)]
  (Json.object [("cells", .array [
    cell "code" (.object [("nbgrader", .object [("grade_id", .string "q1"), ("grade", .bool true),
      ("solution", .bool true), ("points", .number (.negative 1)), ("locked", .string "yes")])]),
    cell "markdown" (.array []),
    cell "markdown" (.object [("nbgrader", .object [("grade_id", .string ""),
      ("grade", .bool true)])])])]).compress

/-- The first cell holds tests all the same, worth nothing and unlocked; the other two take no
part in grading. -/
theorem tools_consistent_of_malformed :
    ∃ notebook, ofText malformed = .ok notebook ∧
      notebook.tools = [⟨some "q1", .tests, some 0, false⟩, .unclassified, .unclassified] ∧
      ∃ items, cellItems? (Json.parse malformed).document = some items ∧
        ∃ origin, List.Forall₂ (IsToolOf origin) items notebook.tools := by
  have classified : (ofText malformed).toOption.map tools =
      some [⟨some "q1", .tests, some 0, false⟩, .unclassified, .unclassified] := by
    decide +kernel
  rcases Option.map_eq_some_iff.1 classified with ⟨notebook, read, found⟩
  have accepted := Outcome.toOption_eq_some_iff.1 read
  exact ⟨notebook, accepted, found, tools_consistent accepted⟩

end Notebook

end Gradebook
