import Gradebook.Ledger.Entry
import Gradebook.Ledger.Score
import Gradebook.Notebook.Tool

namespace Gradebook

/-!
# Grade ledgers

A ledger holds the grading state of one submission: notebook name, then cell id,
then the cell's grade and comment entries.  It is the parsed form of the payload
that the grading service stores, and it writes itself back in the same shape.

Everything that addresses a cell fails where the notebook or the cell has no
entry; `Ledger.ensureEntry` creates the entries of a cell that is newly graded.
-/

/-- The grading state of a submission. -/
structure Ledger where
  notebooks : Dict NotebookGrades

/-- Why an operation on a ledger fails. -/
inductive LedgerError
  /-- The notebook, or the cell within it, has no entry. -/
  | missing (notebook : String) (cell : Option String)
  | score (error : ScoreError)
deriving DecidableEq

/-- The message of a failed operation. -/
def LedgerError.message : LedgerError → String
  | .missing notebook none => "no grading entry for notebook '" ++ notebook ++ "'"
  | .missing notebook (some cell) =>
    "no grading entry for notebook '" ++ notebook ++ "', cell '" ++ cell ++ "'"
  | .score error => error.message

/-! ## New entries -/

/-- The comment entry of a cell that has none yet. -/
def CommentEntry.initial : CommentEntry := ⟨.null, .empty⟩

/-- The grade entry of a cell that has none yet: no scores, no extra credit, and
the point budget of the cell. -/
def GradeEntry.initial (tool : Tool) : GradeEntry where
  manualScore := .null
  autoScore := .null
  extraCredit := .value (.natural 0)
  needsManualGrade := .value (tool.role = .manual || tool.role = .task)
  extra :=
    match tool.points.bind Number.ofFloat? with
    | some points => Extra.empty.insert "max_score" (.number points) (by decide)
    | none => .empty

/-- Add what a cell lacks among its comment and grade entries.  Entries that are
there stay as they are. -/
def NotebookGrades.ensureEntry (grades : NotebookGrades) (cell : String) (tool : Tool) :
    NotebookGrades where
  comments :=
    if grades.comments.contains cell then grades.comments
    else grades.comments.insert cell CommentEntry.initial
  grades :=
    if grades.grades.contains cell then grades.grades
    else grades.grades.insert cell (GradeEntry.initial tool)
  extra := grades.extra

namespace Ledger

/-- The ledger without notebooks. -/
def empty : Ledger := ⟨.empty⟩

instance : Inhabited Ledger := ⟨empty⟩

/-! ## The payload -/

/-- Read a payload: an object over the notebooks. -/
def reader : Json.Reader Ledger := fun origin document => do
  let notebooks ← Json.dictReader NotebookGrades.reader origin document
  return ⟨notebooks⟩

/-- Read a payload. -/
def ofJson (payload : Json) : Except Json.ReadError Ledger :=
  Json.readValue reader payload

/-- Read the text of a payload. -/
def ofText (text : String) : Except Json.ReadError Ledger :=
  Json.readText reader text

/-- Write the payload. -/
def toJson (ledger : Ledger) : Json :=
  .ofDict (ledger.notebooks.map NotebookGrades.toJson)

/-! ## Entries -/

/-- The names of the notebooks, in code point order. -/
def notebookNames (ledger : Ledger) : List String :=
  ledger.notebooks.keys

/-- The grading data of a notebook. -/
def notebook (ledger : Ledger) (notebook : String) : Except LedgerError NotebookGrades :=
  match ledger.notebooks.get? notebook with
  | some grades => .ok grades
  | none => .error (.missing notebook none)

/-- The ids of the graded cells of a notebook, in code point order. -/
def cellIds (ledger : Ledger) (notebook : String) : Except LedgerError (List String) := do
  let grades ← ledger.notebook notebook
  return grades.grades.keys

/-- Whether a cell has a grade entry. -/
def contains (ledger : Ledger) (notebook cell : String) : Bool :=
  match ledger.notebooks.get? notebook with
  | some grades => grades.grades.contains cell
  | none => false

/-- The grade entry of a cell. -/
def grade (ledger : Ledger) (notebook cell : String) : Except LedgerError GradeEntry := do
  let grades ← ledger.notebook notebook
  match grades.grades.get? cell with
  | some entry => return entry
  | none => throw (.missing notebook (some cell))

/-- The comment entry of a cell. -/
def commentEntry (ledger : Ledger) (notebook cell : String) :
    Except LedgerError CommentEntry := do
  let grades ← ledger.notebook notebook
  match grades.comments.get? cell with
  | some entry => return entry
  | none => throw (.missing notebook (some cell))

/-- Change the grade entry of a cell. -/
def modifyGrade (ledger : Ledger) (notebook cell : String)
    (change : GradeEntry → GradeEntry) : Except LedgerError Ledger := do
  let _ ← ledger.grade notebook cell
  return ⟨ledger.notebooks.modify notebook fun grades =>
    { grades with grades := grades.grades.modify cell change }⟩

/-- Change the comment entry of a cell. -/
def modifyComment (ledger : Ledger) (notebook cell : String)
    (change : CommentEntry → CommentEntry) : Except LedgerError Ledger := do
  let _ ← ledger.commentEntry notebook cell
  return ⟨ledger.notebooks.modify notebook fun grades =>
    { grades with comments := grades.comments.modify cell change }⟩

/-! ## Reading a cell -/

/-- The score given by hand; none where it is missing or null. -/
def manualScore (ledger : Ledger) (notebook cell : String) :
    Except LedgerError (Option Float) := do
  let entry ← ledger.grade notebook cell
  return entry.manualScore.get?.map Number.toFloat

/-- The score given by tests; none where it is missing or null. -/
def autoScore (ledger : Ledger) (notebook cell : String) :
    Except LedgerError (Option Float) := do
  let entry ← ledger.grade notebook cell
  return entry.autoScore.get?.map Number.toFloat

/-- Extra credit; where it is missing or null it is zero. -/
def extraCredit (ledger : Ledger) (notebook cell : String) : Except LedgerError Float := do
  let entry ← ledger.grade notebook cell
  return (entry.extraCredit.get?.map Number.toFloat).getD 0

/-- Whether a cell waits for a grader; where that is missing or null it does not. -/
def needsManualGrade (ledger : Ledger) (notebook cell : String) : Except LedgerError Bool := do
  let entry ← ledger.grade notebook cell
  return entry.needsManualGrade.get?.getD false

/-- The point budget that the service recorded for a cell, if any. -/
def maxScore (ledger : Ledger) (notebook cell : String) :
    Except LedgerError (Option Float) := do
  let entry ← ledger.grade notebook cell
  return entry.maxScore?

/-- The manual comment; where it is missing or null it is empty. -/
def comment (ledger : Ledger) (notebook cell : String) : Except LedgerError String := do
  let entry ← ledger.commentEntry notebook cell
  return entry.manualComment.get?.getD ""

/-! ## Writing a cell -/

/-- A finite double as a number; anything else is no score. -/
def finite (x : Float) : Except LedgerError Number :=
  match Number.ofFloat? x with
  | some n => .ok n
  | none => .error (.score .notFinite)

/-- Store a manual score as given, whatever the point budget. -/
def setManualScore (ledger : Ledger) (notebook cell : String) (score : Float) :
    Except LedgerError Ledger := do
  let n ← finite score
  ledger.modifyGrade notebook cell fun entry => { entry with manualScore := .value n }

/-- Store a manual score that lies within a point budget. -/
def setManualScoreChecked (ledger : Ledger) (notebook cell : String) (score points : Float) :
    Except LedgerError Ledger := do
  (Score.check score points).mapError .score
  ledger.setManualScore notebook cell score

/-- Store extra credit as given, which may be negative. -/
def setExtraCredit (ledger : Ledger) (notebook cell : String) (extraCredit : Float) :
    Except LedgerError Ledger := do
  let n ← finite extraCredit
  ledger.modifyGrade notebook cell fun entry => { entry with extraCredit := .value n }

/-- Store extra credit that is not negative. -/
def setExtraCreditChecked (ledger : Ledger) (notebook cell : String) (extraCredit : Float) :
    Except LedgerError Ledger := do
  (Score.checkExtra extraCredit).mapError .score
  ledger.setExtraCredit notebook cell extraCredit

/-- Store whether a cell waits for a grader. -/
def setNeedsManualGrade (ledger : Ledger) (notebook cell : String) (flag : Bool) :
    Except LedgerError Ledger :=
  ledger.modifyGrade notebook cell fun entry => { entry with needsManualGrade := .value flag }

/-- Store the manual comment of a cell, which has a comment entry. -/
def setComment (ledger : Ledger) (notebook cell : String) (comment : String) :
    Except LedgerError Ledger :=
  ledger.modifyComment notebook cell fun entry => { entry with manualComment := .value comment }

/-! ## Adding entries -/

/-- Add what a cell lacks among its notebook, comment and grade entries.  The
flag tells whether a grade entry was created. -/
def ensureEntry (ledger : Ledger) (notebook cell : String) (tool : Tool) : Bool × Ledger :=
  let grades := (ledger.notebooks.get? notebook).getD .empty
  (!ledger.contains notebook cell,
    ⟨ledger.notebooks.insert notebook (grades.ensureEntry cell tool)⟩)

/-! ## Records and sums -/

/-- The grading state of one cell at a glance. -/
structure Record where
  cellId : String
  manualScore : Option Float
  autoScore : Option Float
  extraCredit : Float
  comment : String
  needsManualGrade : Bool
deriving DecidableEq

/-- The record of a graded cell.  Without a comment entry its comment is
empty. -/
def record (ledger : Ledger) (notebook cell : String) : Except LedgerError Record := do
  let entry ← ledger.grade notebook cell
  let grades ← ledger.notebook notebook
  let comment := (grades.comments.get? cell).bind (·.manualComment.get?)
  return {
    cellId := cell
    manualScore := entry.manualScore.get?.map Number.toFloat
    autoScore := entry.autoScore.get?.map Number.toFloat
    extraCredit := (entry.extraCredit.get?.map Number.toFloat).getD 0
    comment := comment.getD ""
    needsManualGrade := entry.needsManualGrade.get?.getD false }

/-- The effective score: the manual score, else the automatic one, else zero,
with the extra credit on top. -/
def Record.score (record : Record) : Float :=
  ((record.manualScore <|> record.autoScore).getD 0) + record.extraCredit

/-- The effective score of a graded cell. -/
def cellScore (ledger : Ledger) (notebook cell : String) : Except LedgerError Float := do
  let record ← ledger.record notebook cell
  return record.score

/-- The sum over the graded cells of a notebook, from left to right. -/
def notebookScore (ledger : Ledger) (notebook : String) : Except LedgerError Float := do
  let cells ← ledger.cellIds notebook
  cells.foldlM (fun total cell => do return total + (← ledger.cellScore notebook cell)) 0

/-- The sum over the notebooks, from left to right. -/
def totalScore (ledger : Ledger) : Float :=
  (ledger.notebookNames.filterMap fun notebook => (ledger.notebookScore notebook).toOption).foldl
    (· + ·) 0

end Ledger

end Gradebook
