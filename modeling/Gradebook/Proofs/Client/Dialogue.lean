import Gradebook.Client.Sync
import Gradebook.Proofs.Ledger.Operations

namespace Gradebook

/-!
# What is asked in a dialogue

Dialogues are held by links of any kind.  `Dialogue.trace` is the list of what is
asked and answered on the way; it makes visible what a dialogue keeps to itself,
such as the ledger that was loaded while grading mode was entered.
-/

namespace Dialogue

variable {α β σ : Type} (link : Link σ)

/-- What is asked and answered when a dialogue is held. -/
def trace : Dialogue α → σ → List (Call × Reply)
  | .done _, _ => []
  | .ask call next, state =>
    let (reply, state) := link call state
    (call, reply) :: (next reply).trace state

@[simp]
theorem run_pure (result : α) (state : σ) :
    (pure result : Dialogue α).run link state = (result, state) :=
  rfl

@[simp]
theorem trace_pure (result : α) (state : σ) :
    (pure result : Dialogue α).trace link state = [] :=
  rfl

/-- A dialogue in two parts is held one part after the other. -/
theorem run_bind (first : Dialogue α) (second : α → Dialogue β) (state : σ) :
    (first >>= second).run link state =
      (second (first.run link state).1).run link (first.run link state).2 := by
  induction first generalizing state with
  | done result => rfl
  | ask call next inductionHypothesis => exact inductionHypothesis _ _

theorem trace_bind (first : Dialogue α) (second : α → Dialogue β) (state : σ) :
    (first >>= second).trace link state =
      first.trace link state ++
        (second (first.run link state).1).trace link (first.run link state).2 := by
  induction first generalizing state with
  | done result => rfl
  | ask call next inductionHypothesis =>
      exact congrArg (List.cons _) (inductionHypothesis _ _)

/-- Whether at most so many things are asked, whatever the replies are. -/
inductive Within : Nat → Dialogue α → Prop
  | done (bound : Nat) (result : α) : Within bound (.done result)
  | ask {bound : Nat} {call : Call} {next : Reply → Dialogue α}
    (later : ∀ reply, Within bound (next reply)) : Within (bound + 1) (.ask call next)

/-- What is made of the result asks nothing more. -/
theorem Within.map {bound : Nat} {dialogue : Dialogue α} (within : dialogue.Within bound)
    (change : α → β) : Within bound (dialogue >>= fun result => pure (change result)) := by
  induction within with
  | done bound result => exact .done bound (change result)
  | ask later inductionHypothesis => exact .ask inductionHypothesis

end Dialogue

/-! ## Loading -/

namespace Sync

/-- What is asked for a payload. -/
def loadCall (sync : Sync) (key : SubmissionKey) : Call :=
  sync.client.call .get key.propertiesPath none

/-- What is made of the reply. -/
def loaded (reply : Reply) : Except SyncError Ledger :=
  match (Client.successBody reply).map Client.plainText with
  | .error error => .error (.fetch error)
  | .ok payload => (Ledger.ofText payload).mapError .parse

/-- The ledger that an exchange fetched, if it is one that fetches a ledger. -/
def fetched? (sync : Sync) (key : SubmissionKey) (exchange : Call × Reply) : Option Ledger :=
  if exchange.1 = sync.loadCall key then (loaded exchange.2).toOption else none

/-- A load asks for the payload once, or nothing at all. -/
theorem load_eq (sync : Sync) (key : SubmissionKey) :
    sync.load key =
      match sync.authorize key with
      | .error error => .done (.error error)
      | .ok () => .ask (sync.loadCall key) fun reply => .done (loaded reply) := by
  unfold load
  cases sync.authorize key with
  | error error => rfl
  | ok _ =>
      refine congrArg (Dialogue.ask _) (funext fun reply => ?_)
      unfold loaded
      change Dialogue.bind (.done ((Client.successBody reply).map Client.plainText)) _ = _
      cases (Client.successBody reply).map Client.plainText <;> rfl

/-- A load that succeeds has fetched its ledger, and one that fails has fetched
none. -/
theorem trace_load {σ : Type} (link : Link σ) (sync : Sync) (key : SubmissionKey) (state : σ) :
    ((sync.load key).trace link state).filterMap (sync.fetched? key) =
      ((sync.load key).run link state).1.toOption.toList := by
  rw [load_eq]
  cases sync.authorize key with
  | error error => rfl
  | ok _ =>
      simp only [Dialogue.trace, Dialogue.run, List.filterMap_cons, List.filterMap_nil, fetched?,
        if_true]
      cases (loaded (link (sync.loadCall key) state).1).toOption <;> rfl

/-- A ledger that is loaded was read from a text. -/
theorem reachable_of_load {σ : Type} (link : Link σ) {sync : Sync} {key : SubmissionKey}
    {state : σ} {ledger : Ledger} (loads : ((sync.load key).run link state).1 = .ok ledger) :
    ledger.Reachable := by
  rw [load_eq] at loads
  cases permitted : sync.authorize key with
  | error error =>
      rw [permitted] at loads
      cases loads
  | ok _ =>
      simp only [permitted, Dialogue.run, loaded] at loads
      split at loads
      · cases loads
      · exact .ofText (Outcome.mapError_eq_ok.1 loads)

end Sync

end Gradebook
