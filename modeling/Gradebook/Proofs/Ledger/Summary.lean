import Gradebook.Ledger.Summary
import Gradebook.Proofs.Ledger.Addition

namespace Gradebook

namespace Ledger

/-!
# What a summary shows

A summary passes over whatever it cannot read: a notebook whose score cannot be taken would
show none, and a cell without a record would be left out.  Nothing of this ever happens.  The
outline of a ledger is made of its entries, where nothing can be missing, and everything that
is asked of a ledger while its summary is written is answered as the outline has it.

So the branch that closes a notebook stands before its last cell, as no cell is left out after
it, and the scores are those of all the cells.
-/

/-! ## Outlines -/

/-- What a graded cell is worth: the manual score, where there is none the automatic one, where
there is none either zero, and the extra credit with it. -/
def Record.worth (record : Record) : Float :=
  match record.manualScore, record.autoScore with
  | some manual, _ => manual + record.extraCredit
  | none, some auto => auto + record.extraCredit
  | none, none => 0 + record.extraCredit

/-- A notebook with the records of its graded cells. -/
structure Part where
  notebook : String
  records : List Record

namespace Part

/-- The sum over the cells, from left to right. -/
def score (part : Part) : Float :=
  part.records.foldl (fun total record => total + record.worth) 0

/-- The line of a cell, at the branch that closes the notebook or at one before it. -/
def cellLine (last : Bool) (record : Record) : String :=
  (if last then "└── " else "├── ") ++ record.mark ++ " " ++ record.cellId ++
    "  manual " ++ scoreText record.manualScore ++ "  auto " ++ scoreText record.autoScore ++
    "  extra " ++ Score.text record.extraCredit ++ "\n"

/-- The comment below the line of a cell, if there is one. -/
def commentBlock (last : Bool) (record : Record) : String :=
  if record.comment = "" then ""
  else (if last then "    " else "│   ") ++ "» " ++ record.comment ++ "\n"

/-- The lines of a notebook: its own and those of its cells, of which only the last one closes
the notebook. -/
def text (part : Part) : String :=
  part.notebook ++ " (" ++ Score.text part.score ++ ")\n" ++
    String.join (part.records.mapIdx fun position record =>
      let last := decide (position + 1 = part.records.length)
      cellLine last record ++ commentBlock last record)

/-- The notebook with these entries.  What counts are the grade entries. -/
def ofEntries (notebook : String) (grades : NotebookGrades) : Part where
  notebook := notebook
  records := grades.grades.entries.map fun (cell, entry) =>
    Record.ofEntries cell entry (grades.comments.get? cell)

end Part

/-- The notebooks of a ledger with the records of their graded cells. -/
def outline (ledger : Ledger) : List Part :=
  ledger.notebooks.entries.map fun (notebook, grades) => .ofEntries notebook grades

/-! ## Every question is answered -/

/-- What a ledger answers about a notebook, and about its cells one by one. -/
structure Part.Answers (ledger : Ledger) (part : Part) : Prop where
  cells : ledger.cellIds part.notebook = .ok (part.records.map Record.cellId)
  ascending : (part.records.map Record.cellId).Pairwise (· < ·)
  records : ∀ record ∈ part.records, ledger.record part.notebook record.cellId = .ok record
  score : ledger.notebookScore part.notebook = .ok part.score

variable {ledger : Ledger} {notebook : String} {records : List Record}

theorem Record.score_eq_worth (record : Record) : record.score = record.worth := by
  rcases record with ⟨cellId, manual, auto, extra, comment, waits⟩
  cases manual with
  | some manual => rfl
  | none => cases auto <;> rfl

theorem foldlM_cellScore
    (taken : ∀ record ∈ records, ledger.record notebook record.cellId = .ok record)
    (total : Float) :
    (records.map Record.cellId).foldlM
        (fun total cell => do return total + (← ledger.cellScore notebook cell)) total =
      .ok (records.foldl (fun total record => total + record.worth) total) := by
  induction records generalizing total with
  | nil => rfl
  | cons record rest inductionHypothesis =>
      rcases List.forall_mem_cons.1 taken with ⟨first, others⟩
      rw [List.map_cons, List.foldlM_cons, cellScore, first, Outcome.ok_bind]
      change ((rest.map Record.cellId).foldlM _ (total + record.score) : Except LedgerError Float) = _
      rw [inductionHypothesis others, record.score_eq_worth]
      rfl

theorem cellIds_ofEntries (notebook : String) (grades : NotebookGrades) :
    (Part.ofEntries notebook grades).records.map Record.cellId = grades.grades.keys := by
  rw [Part.ofEntries, List.map_map]
  rfl

theorem answers_of_mem_outline {part : Part} (listed : part ∈ ledger.outline) :
    part.Answers ledger := by
  rcases List.mem_map.1 listed with ⟨⟨notebook, grades⟩, entered, rfl⟩
  have held : ledger.notebooks.get? notebook = some grades := Dict.get?_eq_some_iff.2 entered
  have cells : ledger.cellIds notebook =
      .ok ((Part.ofEntries notebook grades).records.map Record.cellId) :=
    cellIds_eq_ok_iff.2 ⟨grades, held, (cellIds_ofEntries notebook grades).symm⟩
  have taken : ∀ record ∈ (Part.ofEntries notebook grades).records,
      ledger.record notebook record.cellId = .ok record := by
    intro record made
    rcases List.mem_map.1 made with ⟨⟨cell, entry⟩, graded, rfl⟩
    exact record_eq_ok_iff.2 ⟨grades, entry, held, Dict.get?_eq_some_iff.2 graded, rfl⟩
  have score : ledger.notebookScore notebook = .ok (Part.ofEntries notebook grades).score := by
    rw [notebookScore, cells, Outcome.ok_bind]
    exact foldlM_cellScore taken 0
  refine ⟨cells, ?_, taken, score⟩
  rw [cellIds_ofEntries]
  exact grades.grades.ascending

/-! ## The text -/

theorem Record.lines_eq (record : Record) (last : Bool) :
    record.lines last = Part.cellLine last record ++ Part.commentBlock last record :=
  rfl

/-- The cells of a notebook are written one after the other, none of them left out.  Whether a
cell is the last one can be seen from what is still to come. -/
theorem cellLines_eq
    (taken : ∀ record ∈ records, ledger.record notebook record.cellId = .ok record) :
    ledger.cellLines notebook (records.map Record.cellId) =
      String.join (records.mapIdx fun position record =>
        let last := decide (position + 1 = records.length)
        Part.cellLine last record ++ Part.commentBlock last record) := by
  induction records with
  | nil => rfl
  | cons record rest inductionHypothesis =>
      rcases List.forall_mem_cons.1 taken with ⟨first, others⟩
      -- what follows is empty just where the position is the last one
      have closing : (rest.map Record.cellId).isEmpty = decide (0 + 1 = rest.length + 1) := by
        cases rest <;> simp
      simp only [List.map_cons, cellLines, first, List.mapIdx_cons, String.join_cons,
        inductionHypothesis others, Record.lines_eq, List.length_cons, Nat.add_right_cancel_iff,
        closing]

theorem notebookLines_eq {part : Part} (answers : part.Answers ledger) :
    ledger.notebookLines part.notebook = part.text := by
  rw [notebookLines, answers.score, answers.cells, Part.text, ← cellLines_eq answers.records]
  rfl

/-- The summary of a ledger is the text of its outline and the total below it.  The notebooks of
the outline are those of the ledger, in their order; the ledger has a score for each of them
and a record for each of its graded cells, in their order; and the total is the sum of these
scores from left to right. -/
theorem summary_complete (ledger : Ledger) :
    ledger.outline.map Part.notebook = ledger.notebookNames ∧
      ledger.notebookNames.Pairwise (· < ·) ∧
      (∀ part ∈ ledger.outline, part.Answers ledger) ∧
      ledger.totalScore = (ledger.outline.map Part.score).foldl (· + ·) 0 ∧
      ledger.summary = String.join (ledger.outline.map Part.text) ++
        "total " ++ Score.text ledger.totalScore ++ "\n" := by
  have names : ledger.outline.map Part.notebook = ledger.notebookNames := by
    rw [outline, List.map_map]
    rfl
  refine ⟨names, ledger.notebooks.ascending, fun part => answers_of_mem_outline, ?_, ?_⟩
  · have scores : ledger.notebookNames.filterMap (fun notebook =>
        (ledger.notebookScore notebook).toOption) = ledger.outline.map Part.score := by
      rw [← names, List.filterMap_map, ← List.filterMap_eq_map]
      apply List.filterMap_congr
      intro part listed
      rw [Function.comp_apply, (answers_of_mem_outline listed).score]
      rfl
    rw [totalScore, scores]
  · have texts : ledger.notebookNames.map ledger.notebookLines = ledger.outline.map Part.text := by
      rw [← names, List.map_map]
      exact List.map_congr_left fun part listed => notebookLines_eq (answers_of_mem_outline listed)
    rw [summary, texts]

/-- A cell with a comment stands before the last one. -/
example :
    let steps : List Step := [.ensureEntry "hw1" "q1" ⟨"q1", .manual, none, true⟩,
      .ensureEntry "hw1" "q2" ⟨"q2", .manual, none, true⟩, .set "hw1" "q1" (.manualScore 6),
      .set "hw1" "q1" (.extraCredit 1.5), .set "hw1" "q1" (.comment "Nice work")]
    (Ledger.empty.after steps).summary =
      "hw1 (7.5)\n├── ✓ q1  manual 6  auto -  extra 1.5\n│   » Nice work\n" ++
        "└── ! q2  manual -  auto -  extra 0\ntotal 7.5\n" := by
  decide +kernel

end Ledger

end Gradebook
