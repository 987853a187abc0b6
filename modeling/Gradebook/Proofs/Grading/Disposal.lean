import Gradebook.Proofs.Grading.Denied
import Gradebook.Proofs.Grading.Saving
import Gradebook.Proofs.Grading.View

namespace Gradebook

namespace Controller

/-!
# Disposal is final

A view is closed once.  Its widgets are detached, and from then on nothing that is done
with the controller has any effect: `Operation.whenClosed` says how each operation is
answered, from nothing but the operation, and neither the controller nor the link nor the
host notices it.

A save that had begun is not stopped by this.  It goes on with its snapshot, and as a
controller with a ledger asks nothing of the network, whether the view was closed meanwhile
makes no difference to it.  This is proved by letting two saves go on side by side, of which
only one sees the view being closed.
-/

variable {σ : Type} {controller : Controller}

/-! ## Closing a view -/

/-- What closing a view leaves of it. -/
structure Closes (view closed : Controller) : Prop where
  disposed : closed.disposed = true
  mode : closed.mode = .viewing
  bindings : closed.bindings = []
  ledger : closed.ledger = view.ledger
  saving : closed.saving = view.saving
  /-- The host is told to detach the widgets, and nothing else. -/
  calls : closed.host.calls = view.host.calls ++ view.bindings.map fun entry => .detach entry.1

theorem calls_detachAll (host : Host) (bindings : List (Nat × Binding)) :
    (bindings.foldl (fun host (widget, _) => host.detach widget) host).calls =
      host.calls ++ bindings.map fun entry => .detach entry.1 := by
  induction bindings generalizing host with
  | nil => exact (List.append_nil host.calls).symm
  | cons first rest inductionHypothesis =>
      rw [List.foldl_cons, inductionHypothesis]
      exact List.append_assoc host.calls [.detach first.1] _

theorem closes_dispose (coherent : controller.Coherent) : controller.Closes controller.dispose := by
  unfold dispose
  split_ifs with closed
  · have viewed : controller.mode = .viewing := by
      cases mode : controller.mode with
      | viewing => rfl
      | grading => exact absurd closed (Bool.eq_false_iff.1 (coherent.opened mode))
    have nothing := coherent.viewed viewed
    exact ⟨closed, viewed, nothing, rfl, rfl, by rw [nothing, List.map_nil, List.append_nil]⟩
  · exact ⟨rfl, rfl, rfl, rfl, rfl, calls_detachAll controller.host controller.bindings⟩

/-! ## Operations on a closed view -/

/-- How an operation is answered when the view is closed. -/
def Operation.whenClosed : Operation → Answer
  | .setGradingMode _ => .done (.error .disposed)
  | .edit _ _ => .edited (.error .disposed)
  | .beginSave => .begun (.error .disposed)
  | .completeSave _ | .dispose => .done (.ok ())

/-- One operation changes nothing and asks nothing. -/
theorem perform_of_closed (closed : controller.disposed = true) (link : Link σ) (state : σ)
    (operation : Operation) :
    operation.perform link controller state = ⟨operation.whenClosed, controller, state, []⟩ := by
  cases operation with
  | setGradingMode enabled =>
      simp only [Operation.perform, setGradingMode, closed, if_true, Dialogue.run, Dialogue.trace,
        Operation.whenClosed]
  | edit widget change =>
      simp only [Operation.perform, edit, closed, if_true, Operation.whenClosed]
  | beginSave => simp only [Operation.perform, beginSave, closed, if_true, Operation.whenClosed]
  | completeSave result =>
      simp only [Operation.perform, completeSave, closed, if_true, Operation.whenClosed]
  | dispose => simp only [Operation.perform, dispose, closed, if_true, Operation.whenClosed]

/-- Nor does any number of operations. -/
theorem attempt_of_closed (closed : controller.disposed = true) (link : Link σ) (state : σ)
    (operations : List Operation) :
    attempt link controller state (operations.map .operate) =
      ⟨operations.map fun operation => .answered operation.whenClosed, controller, state, []⟩ := by
  induction operations with
  | nil => rfl
  | cons operation rest inductionHypothesis =>
      simp only [List.map_cons, attempt, Attempt.make, perform_of_closed closed,
        inductionHypothesis, List.cons_append, List.nil_append]

/-- A save from its beginning to its end is refused at the beginning. -/
theorem save_of_closed (closed : controller.disposed = true) :
    controller.save = .done (.error .disposed, controller) := by
  simp only [save, beginSave, closed, if_true]

/-! ## Controllers with a ledger -/

/-- A controller with a ledger leaves the link alone. -/
theorem state_perform (held : controller.ledger.isSome = true) (link : Link σ) (state : σ)
    (operation : Operation) : (operation.perform link controller state).state = state := by
  cases operation with
  | setGradingMode enabled =>
      rcases Option.isSome_iff_exists.1 held with ⟨ledger, held⟩
      rcases setGradingMode_of_held held enabled with ⟨outcome, asked⟩
      simp only [Operation.perform, asked, Dialogue.run]
  | edit widget change => rfl
  | beginSave => rfl
  | completeSave result => rfl
  | dispose => rfl

/-- A ledger that is held is never given up. -/
theorem held_perform (coherent : controller.Coherent) (held : controller.ledger.isSome = true)
    (link : Link σ) (state : σ) (operation : Operation) :
    (operation.perform link controller state).controller.ledger.isSome = true := by
  apply perform_induction (motive := fun next => next.ledger.isSome = true) coherent link state
    operation held
  · intro _ _ _ _ switched
    cases switched with
    | refused closed => exact held
    | stays present absent => exact held
    | leaves off opened graded => exact held
    | returns again bound attaches on => exact held
    | begins missing on reachable bound attaches => rfl
  · intro _ _ _ _ edited
    cases edited with
    | refused reason => exact held
    | accepted => rfl
  · intro _ _ begun
    rw [ledger_of_begins begun]
    exact held
  · exact held
  · exact held

/-! ## A save that goes on -/

/-- Something that happens once a save has begun: the controller is used in any way, the
save asks its next question, or something happens elsewhere on the network. -/
inductive Occurrence
  | operate (operation : Operation)
  | proceed
  | elsewhere (change : Network → Network)

namespace Flight

/-- One more occurrence. -/
def occur (flight : Flight) : Occurrence → Flight
  | .operate operation =>
    let performed := operation.perform Network.exchange flight.controller flight.network
    { flight with controller := performed.controller, network := performed.state }
  | .proceed => flight.step .proceed
  | .elsewhere change => { flight with network := change flight.network }

/-- Occurrences one after the other. -/
def occurs (flight : Flight) (occurrences : List Occurrence) : Flight :=
  occurrences.foldl occur flight

/-- Two saves that stand alike, on networks that are alike, beside controllers that have a
ledger.  Otherwise the controllers may differ. -/
structure Alike (flight other : Flight) : Prop where
  network : flight.network = other.network
  remaining : flight.remaining = other.remaining
  coherent : flight.controller.Coherent
  held : flight.controller.ledger.isSome = true
  coherentOther : other.controller.Coherent
  heldOther : other.controller.ledger.isSome = true

variable {flight other : Flight}

/-- What is done with one of the controllers makes no difference to the saves. -/
theorem Alike.operate (alike : flight.Alike other) (operation : Operation) :
    (flight.occur (.operate operation)).Alike other where
  network := (state_perform alike.held Network.exchange _ operation).trans alike.network
  remaining := alike.remaining
  coherent := coherent_perform alike.coherent Network.exchange _ operation
  held := held_perform alike.coherent alike.held Network.exchange _ operation
  coherentOther := alike.coherentOther
  heldOther := alike.heldOther

theorem Alike.symm (alike : flight.Alike other) : other.Alike flight :=
  ⟨alike.network.symm, alike.remaining.symm, alike.coherentOther, alike.heldOther,
    alike.coherent, alike.held⟩

/-- Both saves ask the same and are answered alike. -/
theorem Alike.proceed (alike : flight.Alike other) :
    (flight.occur .proceed).Alike (other.occur .proceed) := by
  rcases flight with ⟨controller, network, remaining⟩
  rcases other with ⟨controllerOther, networkOther, remainingOther⟩
  rcases alike with ⟨sameNetwork, sameRemaining, coherent, held, coherentOther, heldOther⟩
  simp only at sameNetwork sameRemaining
  subst sameNetwork sameRemaining
  cases remaining with
  | done result => exact ⟨rfl, rfl, coherent, held, coherentOther, heldOther⟩
  | ask call next => exact ⟨rfl, rfl, coherent, held, coherentOther, heldOther⟩

theorem Alike.occur (alike : flight.Alike other) (occurrence : Occurrence) :
    (flight.occur occurrence).Alike (other.occur occurrence) := by
  cases occurrence with
  | operate operation => exact ((alike.operate operation).symm.operate operation).symm
  | proceed => exact alike.proceed
  | elsewhere change =>
      exact ⟨congrArg change alike.network, alike.remaining, alike.coherent, alike.held,
        alike.coherentOther, alike.heldOther⟩

theorem Alike.occurs (alike : flight.Alike other) (occurrences : List Occurrence) :
    (flight.occurs occurrences).Alike (other.occurs occurrences) := by
  induction occurrences generalizing flight other with
  | nil => exact alike
  | cons first rest inductionHypothesis => exact inductionHypothesis (alike.occur first)

/-- A save goes on alike whether or not something is done with the controller. -/
theorem alike_of_operation (coherent : flight.controller.Coherent)
    (held : flight.controller.ledger.isSome = true) (before after : List Occurrence)
    (operation : Operation) :
    (flight.occurs (before ++ .operate operation :: after)).Alike
      (flight.occurs (before ++ after)) := by
  have initial : flight.Alike flight := ⟨rfl, rfl, coherent, held, coherent, held⟩
  have parted := ((initial.occurs before).operate operation).occurs after
  rw [occurs, occurs, List.foldl_append, List.foldl_append]
  exact parted

end Flight

/-! ## Disposal -/

/-- Disposal is final.  However a view was used before it was closed, closing it detaches
its widgets, ends the grading mode and leaves the ledger alone, as well as whether a save is
under way.  After that all operations are answered as `Operation.whenClosed` says, and
nothing is changed by them, told to the host or asked of the link.  A save that had begun
before goes on as if the view had not been closed: with the same questions, the same result
and the same effect on the network. -/
theorem dispose_is_final (sync : Sync) (key : SubmissionKey) (notebookName : String)
    (notebook : Notebook) (host : Host) (link : Link σ) (state : σ)
    (earlier later : List Operation) :
    let run := (Run.start (new sync key notebookName notebook host) state).steps link earlier
    let closed := run.controller.dispose
    run.controller.Closes closed ∧
      attempt link closed run.state (later.map .operate) =
        ⟨later.map fun operation => .answered operation.whenClosed, closed, run.state, []⟩ ∧
      closed.save = .done (.error .disposed, closed) ∧
      ∀ request, run.controller.beginSave.1 = .ok request →
        ∀ (network : Network) (before after : List Occurrence),
          let flight := Flight.start run.controller.beginSave.2 network request
          let disturbed := flight.occurs (before ++ .operate .dispose :: after)
          let undisturbed := flight.occurs (before ++ after)
          disturbed.remaining = undisturbed.remaining ∧
            disturbed.network = undisturbed.network := by
  intro run closed
  have coherent : run.controller.Coherent :=
    (explains_run sync key notebookName notebook host link state earlier).2.1
  have closes : run.controller.Closes closed := closes_dispose coherent
  refine ⟨closes, attempt_of_closed closes.disposed link run.state later,
    save_of_closed closes.disposed, ?_⟩
  intro request begun network before after flight disturbed undisturbed
  have begins := begins run.controller
  have kept : flight.controller.Coherent := coherent_of_begins coherent begins
  rw [begun] at begins
  have held : flight.controller.ledger.isSome = true :=
    Option.isSome_of_eq_some (guarded_of_begins coherent begins).held
  have alike : disturbed.Alike undisturbed := Flight.alike_of_operation kept held before after _
  exact ⟨alike.remaining, alike.network⟩

/-- An instructor closes the view after a save has asked its first question, tries to grade
again, and only then the save goes on. -/
theorem dispose_is_final_of_saving :
    let sync : Sync := ⟨⟨"http://grader", none⟩, (Session.ofUser "ada").withRole 1 .instructor⟩
    let key : SubmissionKey := ⟨1, 2, 7⟩
    let run := (Run.start (new sync key "hw1" ⟨[], .null⟩ (.ofIssue id)) ()).steps bare
      [.setGradingMode true]
    ∃ request, run.controller.beginSave.1 = .ok request ∧
      ∀ network : Network,
        let flight := Flight.start run.controller.beginSave.2 network request
        let disturbed := flight.occurs
          [.proceed, .operate .dispose, .operate (.setGradingMode true), .proceed, .proceed]
        let undisturbed := flight.occurs
          [.proceed, .operate (.setGradingMode true), .proceed, .proceed]
        disturbed.remaining = undisturbed.remaining ∧ disturbed.network = undisturbed.network := by
  intro sync key run
  let viewed := new sync key "hw1" ⟨[], .null⟩ (.ofIssue id)
  have allowed : sync.session.canGrade key.lecture = true := by decide
  have begun : ∃ request, run.controller.beginSave.1 = .ok request := by
    rcases exists_load_bare allowed () with ⟨ledger, loaded⟩
    rcases exists_enterWith (coherent_new sync key "hw1" ⟨[], .null⟩ (.ofIssue id)) rfl rfl ledger
      with ⟨_, _, entered, _⟩
    have switched : (viewed.setGradingMode true).run bare () = (viewed.enterWith ledger, ()) := by
      change ((sync.load key) >>= _ : Dialogue _).run bare () = _
      rw [Dialogue.run_bind, loaded]
      rfl
    have used : run.controller = (viewed.enterWith ledger).2 :=
      congrArg (fun ended => ended.1.2) switched
    rw [used, entered]
    exact ⟨_, rfl⟩
  rcases begun with ⟨request, begun⟩
  refine ⟨request, begun, fun network => ?_⟩
  exact (dispose_is_final sync key "hw1" ⟨[], .null⟩ (.ofIssue id) bare ()
    [.setGradingMode true] []).2.2.2 request begun network [.proceed]
    [.operate (.setGradingMode true), .proceed, .proceed]

end Controller

end Gradebook
