import Gradebook.Client.Sync
import Gradebook.Grading.Host
import Gradebook.Notebook.Basic

namespace Gradebook

/-!
# Grading a notebook

A controller switches one notebook between viewing and grading.  In grading mode
it binds a widget to every gradable cell, routes the edits made there into the
ledger, and guards saves: while one is under way nothing can be edited and no
second one can begin.

The ledger is fetched when grading mode is first entered and kept from then on.
A save works on a snapshot, so it can end after the controller was disposed of.
-/

/-- An edit made in a widget. -/
inductive Edit
  | manualScore (score : Float)
  | extraCredit (extraCredit : Float)
  | comment (comment : String)
  | needsManualGrade (flag : Bool)
deriving DecidableEq

/-- Whether an edit is made in a score field. -/
def Edit.isScore : Edit → Bool
  | .manualScore _ | .extraCredit _ => true
  | .comment _ | .needsManualGrade _ => false

/-- Whether a notebook is viewed or graded. -/
inductive Mode
  | viewing
  | grading
deriving DecidableEq

/-- Why an operation of the controller fails. -/
inductive ControllerError
  | sync (error : SyncError)
  | ledger (error : LedgerError)
  | disposed
  | saveInFlight
  | notGrading
  | unknownWidget (widget : Nat)
  | noScoreField (widget : Nat)

/-- The message of a failed operation. -/
def ControllerError.message : ControllerError → String
  | .sync error => error.message
  | .ledger error => error.message
  | .disposed => "grading view has been closed"
  | .saveInFlight => "a save is already in progress"
  | .notGrading => "grading mode is not active"
  | .unknownWidget widget => "no grading widget with id " ++ toString widget
  | .noScoreField widget => "widget " ++ toString widget ++ " has no score fields"

/-- A save with the snapshot that it writes. -/
structure SaveRequest where
  sync : Sync
  key : SubmissionKey
  ledger : Ledger

/-- Perform a save. -/
def SaveRequest.run (request : SaveRequest) : Dialogue (Except SyncError Unit) :=
  request.sync.save request.key request.ledger

/-- The state of a graded notebook. -/
structure Controller where
  sync : Sync
  key : SubmissionKey
  notebookName : String
  notebook : Notebook
  host : Host
  ledger : Option Ledger
  /-- The attached widgets with what they are bound to, in document order. -/
  bindings : List (Nat × Binding)
  mode : Mode
  saving : Bool
  disposed : Bool

namespace Controller

/-- The controller of a notebook that is viewed. -/
def new (sync : Sync) (key : SubmissionKey) (notebookName : String) (notebook : Notebook)
    (host : Host) : Controller :=
  ⟨sync, key, notebookName, notebook, host, none, [], .viewing, false, false⟩

/-! ## Entering and leaving grading mode -/

/-- A cell that gets a widget. -/
structure Gradable where
  cellIndex : Nat
  cellId : String
  tool : Tool

/-- The cells that get a widget, in document order; the first one has the given
position. -/
def gradableFrom (cellIndex : Nat) : List Cell → List Gradable
  | [] => []
  | cell :: rest =>
    let tool := cell.tool
    let others := gradableFrom (cellIndex + 1) rest
    match tool.id with
    | some cellId => if tool.role.isGradable then ⟨cellIndex, cellId, tool⟩ :: others else others
    | none => others

/-- The cells of a notebook that get a widget. -/
def gradable (notebook : Notebook) : List Gradable :=
  gradableFrom 0 notebook.cells

/-- Make sure that cells have entries in a ledger and take their records, each
one right after its entry was made sure of. -/
def prepare (notebookName : String) :
    Ledger → List Gradable → Ledger × Except LedgerError (List Binding)
  | ledger, [] => (ledger, .ok [])
  | ledger, cell :: rest =>
    let (_, ledger) := ledger.ensureEntry notebookName cell.cellId cell.tool
    match ledger.record notebookName cell.cellId with
    | .error error => (ledger, .error error)
    | .ok record =>
      let (ledger, bindings) := prepare notebookName ledger rest
      (ledger, bindings.map (⟨notebookName, cell.cellIndex, cell.tool, record⟩ :: ·))

/-- Attach widgets.  They take no input while a save is under way. -/
def attachAll (saving : Bool) : Host → List Binding → List (Nat × Binding) × Host
  | host, [] => ([], host)
  | host, binding :: rest =>
    let (widget, host) := host.attach binding
    let host := if saving then host.enable widget false else host
    let (attached, host) := attachAll saving host rest
    ((widget, binding) :: attached, host)

/-- Enter grading mode with a ledger. -/
def enterWith (controller : Controller) (ledger : Ledger) :
    Except ControllerError Unit × Controller :=
  match prepare controller.notebookName ledger (gradable controller.notebook) with
  | (ledger, .error error) =>
    (.error (.ledger error), { controller with ledger := some ledger })
  | (ledger, .ok bindings) =>
    let (attached, host) := attachAll controller.saving controller.host bindings
    (.ok (), { controller with
      host
      ledger := some ledger
      bindings := controller.bindings ++ attached
      mode := .grading })

/-- Detach all widgets, in document order. -/
def unbindAll (controller : Controller) : Controller :=
  { controller with
    host := controller.bindings.foldl (fun host (widget, _) => host.detach widget) controller.host
    bindings := [] }

/-- Switch grading mode on or off.  Asking for the present mode does nothing.
Entering grading mode fetches the ledger if it has not been fetched before; if
that fails the notebook goes on being viewed. -/
def setGradingMode (controller : Controller) (enabled : Bool) :
    Dialogue (Except ControllerError Unit × Controller) :=
  if controller.disposed then .done (.error .disposed, controller)
  else
    match enabled, controller.mode with
    | true, .grading | false, .viewing => .done (.ok (), controller)
    | false, .grading => .done (.ok (), { controller.unbindAll with mode := .viewing })
    | true, .viewing =>
      match controller.ledger with
      | some ledger => .done (controller.enterWith ledger)
      | none => do
        match ← controller.sync.load controller.key with
        | .error error => return (.error (.sync error), controller)
        | .ok ledger => return controller.enterWith ledger

/-! ## Editing -/

/-- What an edit in a widget does to the ledger.  Scores are checked against the
point budget of the cell. -/
def applyEdit (ledger : Ledger) (binding : Binding) : Edit → Except LedgerError Ledger
  | .manualScore score =>
    ledger.setManualScoreChecked binding.notebook binding.cellId score
      (binding.tool.points.getD 0)
  | .extraCredit extraCredit =>
    ledger.setExtraCreditChecked binding.notebook binding.cellId extraCredit
  | .comment comment => ledger.setComment binding.notebook binding.cellId comment
  | .needsManualGrade flag => ledger.setNeedsManualGrade binding.notebook binding.cellId flag

/-- Refresh the record of the first binding of a widget. -/
def refresh (widget : Nat) (record : Ledger.Record) :
    List (Nat × Binding) → List (Nat × Binding)
  | [] => []
  | (id, binding) :: rest =>
    if id = widget then (id, { binding with record }) :: rest
    else (id, binding) :: refresh widget record rest

/-- Apply an edit made in a widget; the result is the new state of its cell. -/
def edit (controller : Controller) (widget : Nat) (edit : Edit) :
    Except ControllerError Ledger.Record × Controller :=
  if controller.disposed then (.error .disposed, controller)
  else if controller.mode ≠ .grading then (.error .notGrading, controller)
  else if controller.saving then (.error .saveInFlight, controller)
  else
    match controller.bindings.lookup widget, controller.ledger with
    | none, _ => (.error (.unknownWidget widget), controller)
    | some binding, ledger =>
      if edit.isScore && !binding.hasScoreFields then
        (.error (.noScoreField widget), controller)
      else
        match ledger with
        | none => (.error .notGrading, controller)
        | some ledger =>
          match applyEdit ledger binding edit with
          | .error error => (.error (.ledger error), controller)
          | .ok ledger =>
            match ledger.record binding.notebook binding.cellId with
            | .error error => (.error (.ledger error), { controller with ledger := some ledger })
            | .ok record =>
              (.ok record, { controller with
                ledger := some ledger
                bindings := refresh widget record controller.bindings })

/-! ## Saving -/

/-- Let all widgets take input, or none. -/
def enableAll (controller : Controller) (enabled : Bool) : Controller :=
  { controller with
    host := controller.bindings.foldl (fun host (widget, _) => host.enable widget enabled)
      controller.host }

/-- Begin a save: from now on nothing can be edited. -/
def beginSave (controller : Controller) :
    Except ControllerError SaveRequest × Controller :=
  if controller.disposed then (.error .disposed, controller)
  else if controller.saving then (.error .saveInFlight, controller)
  else
    match controller.ledger with
    | none => (.error .notGrading, controller)
    | some ledger =>
      (.ok ⟨controller.sync, controller.key, ledger⟩,
        { controller with saving := true }.enableAll false)

/-- End a save with its result.  The ledger stays as it is, so that a failed save
can be tried again; after disposal the result is dropped. -/
def completeSave (controller : Controller) (result : Except SyncError Unit) :
    Except ControllerError Unit × Controller :=
  if controller.disposed then (.ok (), controller)
  else (result.mapError .sync, { controller with saving := false }.enableAll true)

/-- Begin a save, perform it and end it. -/
def save (controller : Controller) : Dialogue (Except ControllerError Unit × Controller) :=
  match controller.beginSave with
  | (.error error, controller) => .done (.error error, controller)
  | (.ok request, controller) => do
    let result ← request.run
    return controller.completeSave result

/-- Close the view for good. -/
def dispose (controller : Controller) : Controller :=
  if controller.disposed then controller
  else { controller.unbindAll with mode := .viewing, disposed := true }

end Controller

end Gradebook
