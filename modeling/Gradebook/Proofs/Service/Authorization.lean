import Gradebook.Proofs.Service.Answer

namespace Gradebook

/-!
# Requests without the token

A request bears the token of a service when its authorization header can be read
as text and is the scheme followed by the token, character by character.  Whoever
does not bear it learns nothing about the store and changes nothing in it; whoever
bears it is served as by a service without a token.

Learning nothing is a statement about two stores: the same request is answered
alike whichever of them is behind the service.  `respondAll_purged` carries both
statements through a run: what the requests with the token are told, and the store
that they leave, is what they would have come to if no other request had been
sent.
-/

namespace Request

/-- Whether the authorization header can be read and holds the token. -/
def Bears (request : Request) (token : String) : Prop :=
  ∃ header, request.authorization = some header ∧ Access.isReadable header = true ∧
    header = Access.scheme ++ token

theorem admits_iff_bears {request : Request} {token : String} :
    (Access.mk (some token)).admits request.authorization = true ↔ request.Bears token := by
  unfold Access.admits Bears
  cases request.authorization with
  | none =>
      simp only [Option.filter_none, Access.accepts, Bool.false_eq_true, reduceCtorEq, false_and,
        exists_false]
  | some header =>
      simp only [Option.some.injEq, exists_eq_left', Option.filter_some]
      by_cases readable : Access.isReadable header = true
      · simp only [readable, if_true, Access.accepts, decide_eq_true_eq, true_and]
      · simp only [readable, if_false, Access.accepts, Bool.false_eq_true, false_and]

theorem not_admits_of_not_bears {request : Request} {token : String}
    (lacks : ¬ request.Bears token) :
    (Access.mk (some token)).admits request.authorization = false :=
  Bool.eq_false_iff.2 fun admitted => lacks (admits_iff_bears.1 admitted)

instance (request : Request) (token : String) : Decidable (request.Bears token) :=
  decidable_of_iff _ admits_iff_bears

end Request

namespace Service

/-! ## One request -/

section Access

variable {access : Access} {request : Request}

/-- What is open to everyone does not depend on the store. -/
theorem read_of_isOpen {route : Route} (unguarded : isOpen route = true) (left right : Store) :
    read left route = read right route := by
  cases route with
  | health => rfl
  | submission path | properties path => cases unguarded

/-- A request that is not admitted is answered without the store and leaves it. -/
theorem respond_of_not_admits (unadmitted : access.admits request.authorization = false)
    (store other : Store) :
    respond ⟨access, store⟩ request = ((respond ⟨access, other⟩ request).1, ⟨access, store⟩) := by
  unfold respond
  cases Route.ofTarget? request.target with
  | none => rfl
  | some route =>
      unfold respondAt
      by_cases preflight : request.method = .options
      · simp only [if_pos preflight]
      · simp only [if_neg preflight, unadmitted, Bool.not_false, Bool.and_true, Bool.not_eq_true']
        cases guarded : isOpen route with
        | false => simp only [if_true]
        | true =>
            simp only [Bool.true_eq_false, if_false, if_true, read_of_isOpen guarded store other]
            cases request.method <;> rfl

/-- On the path of a submission such a request is refused, whatever else is wrong
with it. -/
theorem status_of_not_admits (unadmitted : access.admits request.authorization = false)
    {route : Route} (leads : Route.ofTarget? request.target = some route)
    (guarded : isOpen route = false) (method : request.method ≠ .options) (store : Store) :
    (respond ⟨access, store⟩ request).1.status = 401 := by
  simp only [respond, leads, respondAt, if_neg method, guarded, unadmitted, Bool.not_false,
    Bool.and_self, if_true, Response.bare]

/-- A request that is admitted is answered as by a service without a token. -/
theorem respond_of_admits (admitted : access.admits request.authorization = true) (store : Store) :
    respond ⟨access, store⟩ request =
      ((respond ⟨⟨none⟩, store⟩ request).1, ⟨access, (respond ⟨⟨none⟩, store⟩ request).2.store⟩) := by
  have unprotected : (Access.mk none).admits request.authorization = true := rfl
  unfold respond
  cases Route.ofTarget? request.target with
  | none => rfl
  | some route => simp only [respondAt, admitted, unprotected]

end Access

/-- The token decides: without it a request is answered alike for any two stores
and changes neither, and is refused on the path of a submission; with it the
answer and the store are those of a service without a token. -/
theorem respond_by_token (token : String) (left right : Store) (request : Request) :
    (¬ request.Bears token →
      (respond ⟨⟨some token⟩, left⟩ request).1 = (respond ⟨⟨some token⟩, right⟩ request).1 ∧
      (respond ⟨⟨some token⟩, left⟩ request).2.store = left ∧
      (respond ⟨⟨some token⟩, right⟩ request).2.store = right ∧
      ∀ path, (Route.ofTarget? request.target = some (.submission path) ∨
          Route.ofTarget? request.target = some (.properties path)) →
        request.method ≠ .options →
        (respond ⟨⟨some token⟩, left⟩ request).1.status = 401) ∧
    (request.Bears token →
      (respond ⟨⟨some token⟩, left⟩ request).1 = (respond ⟨⟨none⟩, left⟩ request).1 ∧
      (respond ⟨⟨some token⟩, left⟩ request).2.store =
        (respond ⟨⟨none⟩, left⟩ request).2.store) := by
  constructor
  · intro lacks
    have unadmitted := Request.not_admits_of_not_bears lacks
    refine ⟨?_, ?_, ?_, fun path leads method => ?_⟩
    · rw [respond_of_not_admits unadmitted left right]
    · rw [respond_of_not_admits unadmitted left right]
    · rw [respond_of_not_admits unadmitted right left]
    · rcases leads with leads | leads
      · exact status_of_not_admits unadmitted leads rfl method left
      · exact status_of_not_admits unadmitted leads rfl method left
  · intro bears
    rw [respond_of_admits (Request.admits_iff_bears.2 bears) left]
    exact ⟨rfl, rfl⟩

/-- A request whose path and body are both malformed is told nothing but that it
lacks the token, here because the scheme is written in another case. -/
theorem respond_by_token_malformed :
    let request : Request := ⟨.put, "/services/grader/lectures/x/assignments/2/submissions/%FF",
      some "bearer secret", none, "\x7b"⟩
    ¬ request.Bears "secret" ∧
      (respond ⟨⟨some "secret"⟩, .empty⟩ request).1.status = 401 := by
  intro request
  have lacks : ¬ request.Bears "secret" := by decide
  have leads : Route.ofTarget? request.target = some (.submission ⟨"x", "2", "%FF"⟩) := by
    decide +kernel
  exact ⟨lacks, ((respond_by_token "secret" .empty .empty request).1 lacks).2.2.2 _ (.inl leads)
    (by decide)⟩

/-! ## Many requests -/

theorem respondAll_cons (service : Service) (request : Request) (rest : List Request) :
    service.respondAll (request :: rest) =
      ((service.respond request).1 :: ((service.respond request).2.respondAll rest).1,
        ((service.respond request).2.respondAll rest).2) := rfl

/-- The requests of a run with the answers to them, as far as a property of the
request holds. -/
def heard (service : Service) (counts : Request → Bool) (requests : List Request) :
    List (Request × Response) :=
  (requests.zip (service.respondAll requests).1).filter fun exchange => counts exchange.1

theorem heard_cons (service : Service) (counts : Request → Bool) (request : Request)
    (rest : List Request) :
    service.heard counts (request :: rest) =
      if counts request then
        (request, (service.respond request).1) :: (service.respond request).2.heard counts rest
      else (service.respond request).2.heard counts rest := by
  simp only [heard, respondAll_cons, List.zip_cons_cons, List.filter_cons]

/-- The requests without the token can be left out of a run: the others are
answered as by a service without a token to which only they were sent, and leave
its store. -/
theorem respondAll_purged (token : String) (store : Store) (requests : List Request) :
    (respondAll ⟨⟨some token⟩, store⟩ requests).2 =
        ⟨⟨some token⟩, (respondAll ⟨⟨none⟩, store⟩
          (requests.filter fun request => request.Bears token)).2.store⟩ ∧
      heard ⟨⟨some token⟩, store⟩ (fun request => request.Bears token) requests =
        heard ⟨⟨none⟩, store⟩ (fun _ => true)
          (requests.filter fun request => request.Bears token) := by
  induction requests generalizing store with
  | nil => exact ⟨rfl, rfl⟩
  | cons request rest inductionHypothesis =>
      by_cases bears : request.Bears token
      · have answered := respond_of_admits (Request.admits_iff_bears.2 bears) store
        have unprotected : (respond ⟨⟨none⟩, store⟩ request).2 =
            ⟨⟨none⟩, (respond ⟨⟨none⟩, store⟩ request).2.store⟩ := by
          rw [respond_of_admits rfl store]
        rcases inductionHypothesis (respond ⟨⟨none⟩, store⟩ request).2.store with ⟨left, told⟩
        simp only [List.filter_cons, bears, decide_true, if_true, respondAll_cons, heard_cons]
        rw [answered, unprotected]
        exact ⟨left, congrArg _ told⟩
      · have unadmitted := Request.not_admits_of_not_bears bears
        rcases inductionHypothesis store with ⟨left, told⟩
        simp only [List.filter_cons, bears, decide_false, Bool.false_eq_true, if_false,
          respondAll_cons, heard_cons]
        rw [respond_of_not_admits unadmitted store store]
        exact ⟨left, told⟩

/-- In a run among others the requests without the token are answered alike for
any two stores. -/
theorem heard_without_token (token : String) (left right : Store) (requests : List Request) :
    heard ⟨⟨some token⟩, left⟩ (fun request => ¬ request.Bears token) requests =
      heard ⟨⟨some token⟩, right⟩ (fun request => ¬ request.Bears token) requests := by
  induction requests generalizing left right with
  | nil => rfl
  | cons request rest inductionHypothesis =>
      simp only [heard_cons]
      by_cases bears : request.Bears token
      · have admitted := Request.admits_iff_bears.2 bears
        simp only [bears, not_true_eq_false, decide_false, Bool.false_eq_true, if_false]
        rw [respond_of_admits admitted left, respond_of_admits admitted right]
        exact inductionHypothesis _ _
      · have unadmitted := Request.not_admits_of_not_bears bears
        simp only [bears, not_false_eq_true, decide_true, if_true]
        rw [respond_of_not_admits unadmitted left right, respond_of_not_admits unadmitted right right]
        exact congrArg _ (inductionHypothesis left right)

end Service

end Gradebook
