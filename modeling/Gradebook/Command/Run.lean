import Gradebook.Client.Sync
import Gradebook.Command.Arguments
import Gradebook.Config
import Gradebook.Ledger.Summary
import Gradebook.Notebook.Basic
import Gradebook.Service.Basic

namespace Gradebook

/-!
# Running commands

A command is a dialogue that ends in an outcome: what is printed, or the service
that is to be run.  All that it reads besides the replies of the service is
handed to it.
-/

/-- Where a command runs. -/
structure Surroundings where
  environment : Environment
  /-- The files below the working directory. -/
  files : Files
  /-- The files of the user's configuration folder. -/
  userFiles : Files

/-- How a command ends. -/
inductive Outcome
  | printed (text : String)
  | failed (message : String)
  /-- The command line cannot be read. -/
  | misused
  /-- A service is to be run on a port. -/
  | serving (port : Nat) (service : Service)

namespace Outcome

/-- The exit code of a command that has ended. -/
def exitCode : Outcome → Nat
  | .printed _ | .serving _ _ => 0
  | .failed _ => 1
  | .misused => 2

/-- What goes to the standard output. -/
def output : Outcome → String
  | .printed text => text
  | _ => ""

/-- What a failed command reports. -/
def report? : Outcome → Option String
  | .failed message => some ("Error: " ++ message)
  | _ => none

end Outcome

namespace Command

/-! ## Classifying a notebook -/

/-- Fill a text up with blanks behind it. -/
def padRight (width : Nat) (text : String) : String :=
  text ++ String.ofList (List.replicate (width - text.length) ' ')

/-- Fill a text up with blanks before it. -/
def padLeft (width : Nat) (text : String) : String :=
  String.ofList (List.replicate (width - text.length) ' ') ++ text

/-- The line of a cell in the table of a notebook. -/
def toolLine (cellIndex : Nat) (tool : Tool) : String :=
  padLeft 3 (toString cellIndex) ++ "  " ++ padRight 12 tool.role.name ++ " " ++
    padRight 24 (tool.id.getD "-") ++ " " ++ Ledger.scoreText tool.points ++ "\n"

/-- The lines of the cells from some position on. -/
def toolLines (cellIndex : Nat) : List Tool → String
  | [] => ""
  | tool :: rest => toolLine cellIndex tool ++ toolLines (cellIndex + 1) rest

/-- Show the grading role of every cell of a notebook file. -/
def classifyFile (surroundings : Surroundings) (path : String) (json : Bool) : Outcome :=
  match surroundings.files.readText? (.ofText path) with
  | none => .failed ("Failed to read " ++ path)
  | some text =>
    match Notebook.ofText text with
    | .error _ => .failed "Failed to parse notebook"
    | .ok notebook =>
      if json then .printed ((Json.array (notebook.tools.map Tool.toJson)).pretty ++ "\n")
      else .printed (toolLines 0 notebook.tools)

/-! ## Grading -/

/-- Who acts on a submission, and through which client.  Options take precedence
over the environment, and the environment over the configuration file. -/
def syncFor (surroundings : Surroundings) (url token : Option String) (target : Target) :
    Sync :=
  let environment := surroundings.environment
  let config := Config.load environment surroundings.userFiles
  let username := (config.username <|> environment.get? "USER").getD "grader"
  { client := .ofUrl (url.getD config.baseUrl) (token <|> config.apiToken)
    session := (Session.ofUser username).withRole target.lecture target.role }

/-- Show the ledger of a submission. -/
def showOutcome (ledger : Ledger) (json : Bool) : Outcome :=
  if json then .printed (ledger.toJson.pretty ++ "\n") else .printed ledger.summary

/-- Store a score within the budget given, or else recorded; without a budget any
finite score. -/
def changeScore (change : GradeChange) (ledger : Ledger) : Except LedgerError Ledger :=
  match change.score with
  | none => .ok ledger
  | some score => do
    let recorded ← ledger.maxScore change.notebook change.cell
    match change.maxPoints <|> recorded with
    | some points => ledger.setManualScoreChecked change.notebook change.cell score points
    | none => ledger.setManualScore change.notebook change.cell score

/-- Store extra credit, if it is given. -/
def changeExtraCredit (change : GradeChange) (ledger : Ledger) : Except LedgerError Ledger :=
  match change.extraCredit with
  | none => .ok ledger
  | some extraCredit => ledger.setExtraCreditChecked change.notebook change.cell extraCredit

/-- Store a comment, if it is given. -/
def changeComment (change : GradeChange) (ledger : Ledger) : Except LedgerError Ledger :=
  match change.comment with
  | none => .ok ledger
  | some comment => ledger.setComment change.notebook change.cell comment

/-- Apply all that is given of a change, or nothing. -/
def applyChange (change : GradeChange) (ledger : Ledger) : Except LedgerError Ledger := do
  let ledger ← changeScore change ledger
  let ledger ← changeExtraCredit change ledger
  changeComment change ledger

/-- Change the grade of a cell and save the ledger. -/
def gradeCell (sync : Sync) (key : SubmissionKey) (change : GradeChange) : Dialogue Outcome := do
  match ← sync.load key with
  | .error error => return .failed error.message
  | .ok ledger =>
    match applyChange change ledger with
    | .error error => return .failed error.message
    | .ok ledger =>
      match ← sync.save key ledger with
      | .error error => return .failed error.message
      | .ok () => return .printed ledger.summary

/-! ## Serving -/

/-- The service that a seed file describes. -/
def prepareService (surroundings : Surroundings) (port : Nat) (seed : Option String) : Outcome :=
  let access := Access.ofEnvironment surroundings.environment
  match seed with
  | none => .serving port ⟨access, .empty⟩
  | some path =>
    match surroundings.files.readText? (.ofText path) with
    | none => .failed ("Failed to read " ++ path)
    | some text =>
      match Store.ofSeed text with
      | .error _ => .failed "Failed to parse seed file"
      | .ok store => .serving port ⟨access, store⟩

/-! ## Commands -/

/-- Run a command. -/
def run (surroundings : Surroundings) (url token : Option String) :
    Command → Dialogue Outcome
  | .classify notebook json => .done (classifyFile surroundings notebook json)
  | .showLedger target json => do
    match ← (syncFor surroundings url token target).load target.key with
    | .error error => return .failed error.message
    | .ok ledger => return showOutcome ledger json
  | .grade target change =>
    gradeCell (syncFor surroundings url token target) target.key change
  | .serve port seed => .done (prepareService surroundings port seed)

end Command

/-- Run a command line. -/
def runArguments (surroundings : Surroundings) (arguments : List String) : Dialogue Outcome :=
  match Arguments.parse arguments with
  | none => .done .misused
  | some invocation =>
    invocation.command.run surroundings
      (invocation.url <|> surroundings.environment.url?)
      (invocation.token <|> surroundings.environment.token?)

end Gradebook
