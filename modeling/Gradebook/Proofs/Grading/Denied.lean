import Gradebook.Proofs.Grading.Log

namespace Gradebook

/-!
# Sessions that may not grade

Permission is asked for in one place, before a ledger is loaded or saved.  The
controller does not ask.  It is kept from the grades all the same: it obtains its
ledger by loading, and without a ledger it neither binds a widget nor begins a
save.

`Controller.Attempt` is anything that can be tried at a submission, on the session
itself or through the controller.  `Attempt.refusal` says how each attempt ends
when the session may not grade, from nothing but the attempt and whether the view
was closed.  That a whole run ends so, over any link and in any order, is proved
step by step.  No step needs to know what the link would have answered, because
nothing is asked.
-/

theorem Session.canGrade_eq_false_iff {session : Session} {lecture : UInt64} :
    session.canGrade lecture = false ↔
      session.role? lecture = none ∨ session.role? lecture = some .student := by
  unfold canGrade
  cases session.role? lecture with
  | none => simp only [true_or]
  | some role => cases role <;> simp only [Role.canGrade, reduceCtorEq, Option.some.injEq, or_self,
      or_true]

namespace Sync

variable {sync : Sync} {key : SubmissionKey}

/-- Why a session that may not grade gets nothing. -/
def denial (sync : Sync) (key : SubmissionKey) : SyncError :=
  .permissionDenied sync.session.username key.lecture

theorem authorize_of_denied (denied : sync.session.canGrade key.lecture = false) :
    sync.authorize key = .error (sync.denial key) := by
  rw [authorize, denied]
  rfl

theorem load_of_denied (denied : sync.session.canGrade key.lecture = false) :
    sync.load key = .done (.error (sync.denial key)) := by
  rw [load, authorize_of_denied denied]

theorem save_of_denied (denied : sync.session.canGrade key.lecture = false) (ledger : Ledger) :
    sync.save key ledger = .done (.error (sync.denial key)) := by
  rw [save, authorize_of_denied denied]

end Sync

namespace Controller

/-! ## Attempts -/

/-- Something that can be tried at a submission. -/
inductive Attempt
  | load
  | save (ledger : Ledger)
  | operate (operation : Operation)
  /-- Begin a save with the controller, perform it and end it. -/
  | saveAtOnce

/-- How an attempt ends. -/
inductive Ending
  | loaded (outcome : Except SyncError Ledger)
  | saved (outcome : Except SyncError Unit)
  | answered (answer : Answer)

/-- Attempts that were made: how they ended, what became of the controller and of
the link, and what was exchanged over the link. -/
structure Attempted (σ : Type) where
  endings : List Ending
  controller : Controller
  state : σ
  exchanges : List (Call × Reply)

variable {σ : Type}

/-- Make an attempt. -/
def Attempt.make (link : Link σ) (controller : Controller) (state : σ) : Attempt → Attempted σ
  | .load =>
    let dialogue := controller.sync.load controller.key
    let (outcome, final) := dialogue.run link state
    ⟨[.loaded outcome], controller, final, dialogue.trace link state⟩
  | .save ledger =>
    let dialogue := controller.sync.save controller.key ledger
    let (outcome, final) := dialogue.run link state
    ⟨[.saved outcome], controller, final, dialogue.trace link state⟩
  | .operate operation =>
    let performed := operation.perform link controller state
    ⟨[.answered performed.answer], performed.controller, performed.state, performed.exchanges⟩
  | .saveAtOnce =>
    let dialogue := controller.save
    let ((outcome, next), final) := dialogue.run link state
    ⟨[.answered (.done outcome)], next, final, dialogue.trace link state⟩

/-- Make attempts one after the other. -/
def attempt (link : Link σ) (controller : Controller) (state : σ) : List Attempt → Attempted σ
  | [] => ⟨[], controller, state, []⟩
  | first :: rest =>
    let made := first.make link controller state
    let others := attempt link made.controller made.state rest
    ⟨made.endings ++ others.endings, others.controller, others.state,
      made.exchanges ++ others.exchanges⟩

/-! ## How they are refused -/

/-- Whether an attempt closes the view. -/
def Attempt.closes : Attempt → Bool
  | .operate .dispose => true
  | _ => false

/-- How an attempt ends for a session that may not grade, in a view that was closed
before or not.  What needs a ledger of the controller fails for want of one. -/
def Attempt.refusal (denial : SyncError) (closed : Bool) : Attempt → Ending
  | .load => .loaded (.error denial)
  | .save _ => .saved (.error denial)
  | .operate (.setGradingMode true) =>
    .answered (.done (.error (if closed then .disposed else .sync denial)))
  | .operate (.setGradingMode false) =>
    .answered (.done (if closed then .error .disposed else .ok ()))
  | .operate (.edit _ _) => .answered (.edited (.error (if closed then .disposed else .notGrading)))
  | .operate .beginSave => .answered (.begun (.error (if closed then .disposed else .notGrading)))
  | .operate (.completeSave outcome) =>
    .answered (.done (if closed then .ok () else outcome.mapError .sync))
  | .operate .dispose => .answered (.done (.ok ()))
  | .saveAtOnce => .answered (.done (.error (if closed then .disposed else .notGrading)))

/-- How attempts end one after the other. -/
def refusals (denial : SyncError) : Bool → List Attempt → List Ending
  | _, [] => []
  | closed, first :: rest =>
    first.refusal denial closed :: refusals denial (closed || first.closes) rest

section

variable {sync : Sync} {key : SubmissionKey} {notebookName : String} {notebook : Notebook}
  {host : Host}

/-- The controller of a notebook that was never graded, closed or not. -/
def unentered (sync : Sync) (key : SubmissionKey) (notebookName : String) (notebook : Notebook)
    (host : Host) (closed : Bool) : Controller :=
  { new sync key notebookName notebook host with disposed := closed }

/-- No attempt gets further, and none asks anything. -/
theorem make_of_denied (denied : sync.session.canGrade key.lecture = false) (link : Link σ)
    (state : σ) (closed : Bool) (attempt : Attempt) :
    attempt.make link (unentered sync key notebookName notebook host closed) state =
      ⟨[attempt.refusal (sync.denial key) closed],
        unentered sync key notebookName notebook host (closed || attempt.closes), state, []⟩ := by
  have loads := Sync.load_of_denied denied
  cases attempt with
  | load =>
      simp only [Attempt.make, unentered, new, loads, Dialogue.run, Dialogue.trace,
        Attempt.refusal, Attempt.closes, Bool.or_false]
  | save ledger =>
      simp only [Attempt.make, unentered, new, Sync.save_of_denied denied, Dialogue.run,
        Dialogue.trace, Attempt.refusal, Attempt.closes, Bool.or_false]
  | saveAtOnce =>
      cases closed <;> rfl
  | operate operation =>
      cases operation with
      | setGradingMode enabled =>
          cases closed <;> cases enabled
          · rfl
          · simp only [Attempt.make, Operation.perform, setGradingMode, unentered, new, loads]
            rfl
          · rfl
          · rfl
      | edit widget change => cases closed <;> rfl
      | beginSave => cases closed <;> rfl
      | completeSave outcome => cases closed <;> rfl
      | dispose => cases closed <;> rfl

theorem attempt_of_denied (denied : sync.session.canGrade key.lecture = false) (link : Link σ)
    (state : σ) (closed : Bool) (attempts : List Attempt) :
    attempt link (unentered sync key notebookName notebook host closed) state attempts =
      ⟨refusals (sync.denial key) closed attempts,
        unentered sync key notebookName notebook host (closed || attempts.any Attempt.closes),
        state, []⟩ := by
  induction attempts generalizing closed with
  | nil => simp only [attempt, refusals, List.any_nil, Bool.or_false]
  | cons first rest inductionHypothesis =>
      simp only [attempt, make_of_denied denied, inductionHypothesis, refusals, List.any_cons,
        Bool.or_assoc, List.cons_append, List.nil_append]

end

/-- A session without a role in the lecture, or with that of a student, gets nothing
by any run of attempts: nothing is asked, every attempt ends as `Attempt.refusal`
says without a look at the link, and the notebook goes on being viewed, without a
ledger and without widgets. -/
theorem attempt_of_no_role {sync : Sync} {key : SubmissionKey}
    (role : sync.session.role? key.lecture = none ∨
      sync.session.role? key.lecture = some .student)
    (notebookName : String) (notebook : Notebook) (host : Host) (link : Link σ) (state : σ)
    (attempts : List Attempt) :
    let made := attempt link (new sync key notebookName notebook host) state attempts
    made.exchanges = [] ∧ made.state = state ∧
      made.endings =
        refusals (.permissionDenied sync.session.username key.lecture) false attempts ∧
      made.controller.mode = .viewing ∧ made.controller.ledger = none ∧
      made.controller.bindings = [] ∧ made.controller.host = host := by
  intro made
  have ends : made = _ :=
    attempt_of_denied (Session.canGrade_eq_false_iff.2 role) link state false attempts
  rw [ends]
  exact ⟨rfl, rfl, rfl, rfl, rfl, rfl, rfl⟩

/-- A student of the lecture who instructs another one: the link counts the calls,
and none is made. -/
theorem attempt_of_no_role_elsewhere :
    let session := ((Session.ofUser "ada").withRole 2 .instructor).withRole 1 .student
    let made := attempt (fun _ calls => (none, calls + 1))
      (new ⟨⟨"http://grader", none⟩, session⟩ ⟨1, 2, 7⟩ "hw1" ⟨[], .null⟩ (.ofIssue id)) 0
      [.operate (.setGradingMode true), .operate .beginSave, .load]
    made.state = 0 ∧ made.endings =
      [.answered (.done (.error (.sync (.permissionDenied "ada" 1)))),
        .answered (.begun (.error .notGrading)), .loaded (.error (.permissionDenied "ada" 1))] := by
  intro session made
  let sync : Sync := ⟨⟨"http://grader", none⟩, session⟩
  let key : SubmissionKey := ⟨1, 2, 7⟩
  have role : sync.session.role? key.lecture = some .student := rfl
  have refused := attempt_of_no_role (.inr role) "hw1" ⟨[], .null⟩ (.ofIssue id)
    (fun _ calls => (none, calls + 1)) 0
    [.operate (.setGradingMode true), .operate .beginSave, .load]
  exact ⟨refused.2.1, refused.2.2.1⟩

end Controller

end Gradebook
