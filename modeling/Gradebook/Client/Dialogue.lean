import Gradebook.Service.Exchange

namespace Gradebook

/-!
# Dialogues with a service

What a client does is a dialogue: it either has its result, or it asks something
and goes on according to the reply.  A dialogue says nothing about who answers.
`Dialogue.run` holds it with a link, which may remember what it was asked; the
steps of several dialogues may just as well be interleaved.
-/

/-- Something asked of a service: the full address, and the rest of the
request. -/
structure Call where
  method : Method
  url : String
  authorization : Option String
  contentType : Option String
  body : String
deriving DecidableEq

/-- The response to a call; there is none when the service cannot be
reached. -/
abbrev Reply := Option Response

/-- A finite exchange that ends in an `α`. -/
inductive Dialogue (α : Type)
  | done (result : α)
  | ask (call : Call) (next : Reply → Dialogue α)

/-- What answers calls, with a state of its own. -/
abbrev Link (σ : Type) := Call → σ → Reply × σ

namespace Dialogue

variable {α β σ : Type}

/-- Go on with a second dialogue. -/
def bind : Dialogue α → (α → Dialogue β) → Dialogue β
  | .done result, next => next result
  | .ask call reply, next => .ask call fun r => (reply r).bind next

instance : Monad Dialogue where
  pure := .done
  bind := bind

/-- Ask one thing. -/
def call (call : Call) : Dialogue Reply :=
  .ask call .done

/-- Hold a dialogue with a link. -/
def run (link : Link σ) : Dialogue α → σ → α × σ
  | .done result, state => (result, state)
  | .ask call next, state =>
    let (reply, state) := link call state
    (next reply).run link state

/-- Hold a dialogue with a link that performs effects. -/
def runWith {m : Type → Type} [Monad m] (link : Call → m Reply) : Dialogue α → m α
  | .done result => pure result
  | .ask call next => do
    let reply ← link call
    (next reply).runWith link

end Dialogue

end Gradebook
