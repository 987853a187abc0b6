import Gradebook.Ledger.Basic

namespace Gradebook

namespace Ledger

/-!
# Summaries of ledgers

A summary lists every notebook with its score and under it, as branches of a
tree, every graded cell with its scores and comment; the total comes last.
-/

/-- A score, or a dash where there is none. -/
def scoreText : Option Float → String
  | some score => Score.text score
  | none => "-"

/-- The mark of a cell: whether it still waits for a grader. -/
def Record.mark (record : Record) : String :=
  if record.needsManualGrade && record.manualScore.isNone then "!" else "✓"

/-- The lines of a cell; the last cell of a notebook closes the tree. -/
def Record.lines (record : Record) (last : Bool) : String :=
  let branch := if last then "└── " else "├── "
  let continuation := if last then "    " else "│   "
  branch ++ record.mark ++ " " ++ record.cellId ++
    "  manual " ++ scoreText record.manualScore ++
    "  auto " ++ scoreText record.autoScore ++
    "  extra " ++ Score.text record.extraCredit ++ "\n" ++
    if record.comment = "" then "" else continuation ++ "» " ++ record.comment ++ "\n"

/-- The lines of the cells of a notebook. -/
def cellLines (ledger : Ledger) (notebook : String) : List String → String
  | [] => ""
  | cell :: rest =>
    let lines :=
      match ledger.record notebook cell with
      | .ok record => record.lines rest.isEmpty
      | .error _ => ""
    lines ++ cellLines ledger notebook rest

/-- The lines of a notebook. -/
def notebookLines (ledger : Ledger) (notebook : String) : String :=
  let score := (ledger.notebookScore notebook).toOption.getD 0
  let cells := (ledger.cellIds notebook).toOption.getD []
  notebook ++ " (" ++ Score.text score ++ ")\n" ++ ledger.cellLines notebook cells

/-- The summary of a ledger. -/
def summary (ledger : Ledger) : String :=
  String.join (ledger.notebookNames.map ledger.notebookLines) ++
    "total " ++ Score.text ledger.totalScore ++ "\n"

end Ledger

end Gradebook
