import Gradebook.Proofs.Service.Answer
import Mathlib.Data.Finset.Card

namespace Gradebook

/-!
# What requests replace

Whatever a request asks, the store changes in one way only: one part of one
submission, its record or its grading properties, is replaced by what stands in the
body.  `Service.replaced?` says from a request and its response which replacement
was made, and `Service.answered_respond` that the service did this and nothing else.

So the store after any history is the store before it with the replacements of the
history made in order, and what has been replaced last in some place stands there
now.
-/

/-- One of the two parts of a submission that the service hands out and replaces. -/
inductive Aspect
  | record
  | properties
deriving DecidableEq

/-- Which part of which submission is meant. -/
structure Place where
  key : SubmissionKey
  aspect : Aspect
deriving DecidableEq

/-- The content of a part. -/
inductive Part
  | record (submission : Submission)
  | properties (payload : Json)

namespace Part

/-- Which part it is. -/
def aspect : Part → Aspect
  | .record _ => .record
  | .properties _ => .properties

/-- The value that stands for the part in a body. -/
def toJson : Part → Json
  | .record submission => submission.toJson
  | .properties payload => payload

/-- The part that a body holds. -/
def ofBody? (body : String) : Aspect → Option Part
  | Aspect.record => (Json.readText Submission.reader body).toOption.map record
  | Aspect.properties => (Json.readText Json.keep body).toOption.map properties

/-- Put the part in the place of the old one. -/
def replace (part : Part) (stored : StoredSubmission) : StoredSubmission :=
  match part with
  | record submission => { stored with submission }
  | properties payload => { stored with properties := payload }

/-- Whether the service takes the part for a submission: properties have to be a
ledger, and a record has to name the submission.  Both are canonical, like all that
is read. -/
def Fits (key : SubmissionKey) : Part → Prop
  | .record submission => submission.id = key.submission ∧ submission.extra.Every Json.Canonical
  | .properties payload => (∃ ledger, Ledger.ofJson payload = .ok ledger) ∧ payload.Canonical

end Part

/-- A part of a stored submission. -/
def StoredSubmission.part (stored : StoredSubmission) : Aspect → Part
  | .record => .record stored.submission
  | .properties => .properties stored.properties

/-- A part of a submission that is replaced. -/
structure Replacement where
  key : SubmissionKey
  part : Part

/-- Where a replacement is made. -/
def Replacement.place (replacement : Replacement) : Place :=
  ⟨replacement.key, replacement.part.aspect⟩

/-! ## Replacements in a store -/

namespace Store

variable {store : Store} {replacement : Replacement} {place : Place}

/-- What stands in a place. -/
def part? (store : Store) (place : Place) : Option Part :=
  (store.get? place.key).map (·.part place.aspect)

/-- Make a replacement. -/
def replace (store : Store) (replacement : Replacement) : Store :=
  store.modify replacement.key replacement.part.replace

/-- Make replacements one after the other. -/
def replaceAll (store : Store) (replacements : List Replacement) : Store :=
  replacements.foldl replace store

/-- The keys of the submissions. -/
def keys (store : Store) : List SubmissionKey :=
  store.entries.map Prod.fst

theorem part_replace (part : Part) (stored : StoredSubmission) (aspect : Aspect) :
    (part.replace stored).part aspect = if aspect = part.aspect then part else stored.part aspect := by
  cases part with
  | record submission =>
      cases aspect with
      | record => simp only [Part.replace, StoredSubmission.part, Part.aspect, if_true]
      | properties =>
          simp only [Part.replace, StoredSubmission.part, Part.aspect, reduceCtorEq, if_false]
  | properties payload =>
      cases aspect with
      | record =>
          simp only [Part.replace, StoredSubmission.part, Part.aspect, reduceCtorEq, if_false]
      | properties => simp only [Part.replace, StoredSubmission.part, Part.aspect, if_true]

/-- A replacement is found in its place, and all other places are as before. -/
theorem part?_replace (store : Store) (replacement : Replacement) (place : Place) :
    (store.replace replacement).part? place =
      (store.part? place).map fun old =>
        if place = replacement.place then replacement.part else old := by
  rcases place with ⟨key, aspect⟩
  simp only [part?, replace, get?_modify, Replacement.place, Place.mk.injEq]
  cases store.get? key with
  | none => simp only [Option.map_none, ite_self]
  | some stored =>
      by_cases same : key = replacement.key
      · simp only [same, if_true, true_and, Option.map_some, part_replace]
      · simp only [same, if_false, false_and, Option.map_some]

/-- What has been replaced last in a place stands there. -/
theorem part?_replaceAll (store : Store) (replacements : List Replacement) (place : Place) :
    (store.replaceAll replacements).part? place =
      (store.part? place).map fun old =>
        ((replacements.filter (·.place = place)).getLast?.map Replacement.part).getD old := by
  induction replacements using List.reverseRecOn with
  | nil =>
      simp only [replaceAll, List.foldl_nil, List.filter_nil, List.getLast?_nil, Option.map_none,
        Option.getD_none, Option.map_id']
  | append_singleton earlier last inductionHypothesis =>
      rw [replaceAll, List.foldl_append, List.foldl_cons, List.foldl_nil, part?_replace]
      change ((store.replaceAll earlier).part? place).map _ = _
      rw [inductionHypothesis, Option.map_map, List.filter_append]
      apply congrArg (Option.map · _)
      funext old
      by_cases here : last.place = place
      · simp only [Function.comp, here, decide_true, List.filter_cons_of_pos, List.filter_nil,
          List.getLast?_concat, Option.map_some, Option.getD_some, if_true]
      · have elsewhere : place ≠ last.place := Ne.symm here
        simp only [Function.comp, here, elsewhere, decide_false, Bool.false_eq_true,
          not_false_eq_true, List.filter_cons_of_neg, List.filter_nil, List.append_nil, if_false]

theorem keys_modify (store : Store) (key : SubmissionKey)
    (change : StoredSubmission → StoredSubmission) : (store.modify key change).keys = store.keys := by
  rw [keys, modify, List.map_map]
  rfl

theorem keys_replaceAll (store : Store) (replacements : List Replacement) :
    (store.replaceAll replacements).keys = store.keys := by
  induction replacements generalizing store with
  | nil => rfl
  | cons first rest inductionHypothesis =>
      exact (inductionHypothesis (store.replace first)).trans (keys_modify store _ _)

theorem size_eq_length_keys (store : Store) : store.size = store.keys.length := by
  rw [keys, List.length_map, size]

theorem mem_keys_iff {key : SubmissionKey} :
    key ∈ store.keys ↔ ∃ stored, store.get? key = some stored := by
  unfold keys get?
  generalize store.entries = entries
  induction entries with
  | nil => simp only [List.map_nil, List.not_mem_nil, List.lookup_nil, reduceCtorEq, exists_false]
  | cons entry rest inductionHypothesis =>
      rcases entry with ⟨name, stored⟩
      by_cases same : key = name
      · subst same
        simp only [List.map_cons, List.mem_cons, true_or, List.lookup_cons_self, Option.some.injEq,
          exists_eq']
      · simp only [List.map_cons, List.mem_cons, same, false_or, inductionHypothesis,
          List.lookup_cons, beq_false_of_ne same]

/-- A replacement of a known submission is found in its place, and all other parts are
as before. -/
theorem part?_replace_of_known (known : replacement.key ∈ store.keys) (place : Place) :
    (store.replace replacement).part? place =
      if place = replacement.place then some replacement.part else store.part? place := by
  rcases mem_keys_iff.1 known with ⟨stored, found⟩
  rw [part?_replace]
  split_ifs with here
  · rw [here, part?]
    change Option.map _ ((store.get? replacement.key).map _) = _
    rw [found]
    rfl
  · exact Option.map_id'

/-- Replacements change submissions with the same content in the same way. -/
theorem get?_replaceAll_congr {left right : Store} {key : SubmissionKey}
    (same : left.get? key = right.get? key) (replacements : List Replacement) :
    (left.replaceAll replacements).get? key = (right.replaceAll replacements).get? key := by
  induction replacements generalizing left right with
  | nil => exact same
  | cons first rest inductionHypothesis =>
      apply inductionHypothesis
      rw [replace, replace, get?_modify, get?_modify, same]

theorem get?_replaceAll_of_ne {key : SubmissionKey} {replacements : List Replacement}
    (elsewhere : ∀ replacement ∈ replacements, replacement.key ≠ key) :
    (store.replaceAll replacements).get? key = store.get? key := by
  induction replacements generalizing store with
  | nil => rfl
  | cons first rest inductionHypothesis =>
      have away := elsewhere first List.mem_cons_self
      have later := @inductionHypothesis (store.replace first) fun other listed =>
        elsewhere other (List.mem_cons_of_mem first listed)
      exact later.trans (get?_modify_of_ne _ (Ne.symm away))

/-! ## Seeds -/

/-- The last submission of a list counts under its key. -/
theorem get?_ofList (submissions : List StoredSubmission) (key : SubmissionKey) :
    (ofList submissions).get? key = submissions.reverse.find? (·.key = key) := by
  rw [ofList]
  induction submissions using List.reverseRecOn with
  | nil => rfl
  | append_singleton earlier last inductionHypothesis =>
      rw [List.foldl_append, List.foldl_cons, List.foldl_nil, get?_insert, List.reverse_append,
        List.reverse_singleton, List.singleton_append, List.find?_cons, inductionHypothesis]
      by_cases same : last.key = key
      · simp only [same, decide_true, if_true]
      · simp only [same, Ne.symm same, decide_false, if_false]

/-- A list gives as many submissions as it has keys. -/
theorem size_ofList (submissions : List StoredSubmission) :
    (ofList submissions).size = (submissions.map StoredSubmission.key).toFinset.card := by
  have distinct : (ofList submissions).keys.Nodup := (ofList submissions).distinct
  rw [size_eq_length_keys, ← List.toFinset_card_of_nodup distinct]
  apply congrArg Finset.card
  ext key
  rw [List.mem_toFinset, List.mem_toFinset, mem_keys_iff, get?_ofList,
    ← Option.isSome_iff_exists, List.find?_isSome]
  simp only [List.mem_reverse, decide_eq_true_eq, List.mem_map]

end Store

/-! ## What a request names -/

/-- The part of a submission that a route leads to, if its numbers can be read. -/
def Route.place? : Route → Option Place
  | health => none
  | submission path => path.toKey.toOption.map (⟨·, .record⟩)
  | properties path => path.toKey.toOption.map (⟨·, .properties⟩)

namespace Request

/-- The part that a request is about. -/
def place? (request : Request) : Option Place :=
  (Route.ofTarget? request.target).bind Route.place?

/-- The replacement that a request asks for: its path names the place, and its body
holds the new part. -/
def replacement? (request : Request) : Option Replacement :=
  request.place?.bind fun place =>
    (Part.ofBody? request.body place.aspect).map fun part => ⟨place.key, part⟩

theorem place?_properties {request : Request} {key : SubmissionKey}
    (target : request.target = SubmissionKey.mount ++ key.propertiesPath) :
    request.place? = some ⟨key, .properties⟩ := by
  rw [place?, target, Route.ofTarget?_properties, Option.bind_some, Route.place?,
    PathKey.toKey_written]
  rfl

theorem place?_record {request : Request} {key : SubmissionKey}
    (target : request.target = SubmissionKey.mount ++ key.submissionPath) :
    request.place? = some ⟨key, .record⟩ := by
  rw [place?, target, Route.ofTarget?_submission, Option.bind_some, Route.place?,
    PathKey.toKey_written]
  rfl

/-- A replacement is made where the path says. -/
theorem place_of_replacement? {request : Request} {replacement : Replacement}
    (asked : request.replacement? = some replacement) : request.place? = some replacement.place := by
  rcases Option.bind_eq_some_iff.1 asked with ⟨⟨key, aspect⟩, named, held⟩
  rcases Option.map_eq_some_iff.1 held with ⟨part, read, rfl⟩
  rw [named]
  cases aspect with
  | record =>
      rcases Option.map_eq_some_iff.1 read with ⟨submission, _, rfl⟩
      rfl
  | properties =>
      rcases Option.map_eq_some_iff.1 read with ⟨payload, _, rfl⟩
      rfl

end Request

namespace Service

variable {service : Service} {request : Request} {store : Store}

theorem ext {left right : Service} (access : left.access = right.access)
    (store : left.store = right.store) : left = right := by
  cases left
  cases right
  cases access
  cases store
  rfl

/-- The replacement that a request has brought about, as its response tells. -/
def replaced? (request : Request) (response : Response) : Option Replacement :=
  if request.method = .put ∧ response.isSuccess then request.replacement? else none

/-! ## Writing -/

/-- A body that is read is not too large and holds a value, and one that is not is
refused. -/
theorem readBody_holds {α : Type} (reader : Json.Reader α) (request : Request) :
    (∃ value, readBody reader request = .ok value ∧
      Json.readText reader request.body = .ok value ∧
      request.body.utf8ByteSize ≤ maximalBodySize) ∨
    ∃ response, readBody reader request = .error response ∧ response.isSuccess = false := by
  unfold readBody
  dsimp only
  split_ifs with media large
  · exact .inr ⟨_, rfl, rfl⟩
  · cases read : Json.readText reader request.body with
    | ok value => exact .inl ⟨value, rfl, rfl, Nat.le_of_not_lt large⟩
    | error error =>
        cases error with
        | mismatch mismatch => exact .inr ⟨_, rfl, rfl⟩
        | damaged damage => exact .inr ⟨_, rfl, rfl⟩
  · exact .inr ⟨_, rfl, rfl⟩

/-- The values beside the interpreted members of a record are canonical. -/
theorem yields_canonical_submission :
    Json.Yields Submission.reader fun submission => submission.extra.Every Json.Canonical := by
  intro origin document submission accepted
  rcases Json.exists_of_objectReader accepted with ⟨inner, members, ending, accepted⟩
  simp only [Outcome.bind_eq_ok] at accepted
  rcases accepted with ⟨fields, _, id, _, status, _, extra, kept, ⟨rfl⟩⟩
  exact Extra.canonical_keepMore (Extra.every_empty Json.Canonical) kept

/-- What writing does: nothing, and it says so, or just the replacement that is asked
for. -/
def Written (request : Request) (before : Store) (outcome : Outcome) : Prop :=
  (outcome.1.isSuccess = false ∧ outcome.2 = before) ∨
    (outcome.1.isSuccess = true ∧ ∃ replacement, request.replacement? = some replacement ∧
      outcome.2 = before.replace replacement ∧ replacement.part.Fits replacement.key ∧
      replacement.key ∈ before.keys ∧ request.body.utf8ByteSize ≤ maximalBodySize)

theorem written_putProperties {key : SubmissionKey} {payload : Json}
    (asked : request.replacement? = some ⟨key, .properties payload⟩)
    (canonical : payload.Canonical)
    (small : request.body.utf8ByteSize ≤ maximalBodySize) :
    Written request store (putProperties store key payload) := by
  unfold putProperties
  cases accepted : Ledger.ofJson payload with
  | error error =>
      cases error with
      | mismatch mismatch => exact .inl ⟨rfl, rfl⟩
      | damaged damage => exact .inl ⟨rfl, rfl⟩
  | ok ledger =>
      cases found : store.get? key with
      | none =>
          simp only [Store.setProperties?, found]
          exact .inl ⟨rfl, rfl⟩
      | some stored =>
          simp only [Store.setProperties?_of_get? found]
          exact .inr ⟨rfl, _, asked, rfl, ⟨⟨ledger, accepted⟩, canonical⟩,
            Store.mem_keys_iff.2 ⟨stored, found⟩, small⟩

theorem written_putSubmission {key : SubmissionKey} {submission : Submission}
    (asked : request.replacement? = some ⟨key, .record submission⟩)
    (canonical : submission.extra.Every Json.Canonical)
    (small : request.body.utf8ByteSize ≤ maximalBodySize) :
    Written request store (putSubmission store key submission) := by
  unfold putSubmission
  split_ifs with differs
  · exact .inl ⟨rfl, rfl⟩
  · cases found : store.get? key with
    | none =>
        simp only [Store.setSubmission?, found]
        exact .inl ⟨rfl, rfl⟩
    | some stored =>
        simp only [Store.setSubmission?_of_get? found]
        exact .inr ⟨rfl, _, asked, rfl, ⟨not_not.1 differs, canonical⟩,
          Store.mem_keys_iff.2 ⟨stored, found⟩, small⟩

theorem written_write {route : Route} (leads : Route.ofTarget? request.target = some route) :
    Written request store (write store request route) := by
  cases route with
  | health => exact .inl ⟨rfl, rfl⟩
  | submission path =>
      simp only [write]
      cases named : path.toKey with
      | error error => exact .inl ⟨rfl, rfl⟩
      | ok key =>
          rcases readBody_holds Submission.reader request with ⟨submission, body, read, small⟩ |
            ⟨response, body, failed⟩
          · have asked : request.replacement? = some ⟨key, .record submission⟩ := by
              simp only [Request.replacement?, Request.place?, leads, Route.place?, named,
                Part.ofBody?, read, Except.toOption, Option.bind_some, Option.map_some]
            simp only [body]
            exact written_putSubmission asked (yields_canonical_submission.text read) small
          · simp only [body]
            exact .inl ⟨failed, rfl⟩
  | properties path =>
      simp only [write]
      cases named : path.toKey with
      | error error => exact .inl ⟨rfl, rfl⟩
      | ok key =>
          rcases readBody_holds Json.keep request with ⟨payload, body, read, small⟩ |
            ⟨response, body, failed⟩
          · have asked : request.replacement? = some ⟨key, .properties payload⟩ := by
              simp only [Request.replacement?, Request.place?, leads, Route.place?, named,
                Part.ofBody?, read, Except.toOption, Option.bind_some, Option.map_some]
            simp only [body]
            exact written_putProperties asked (Json.yields_canonical_keep.text read) small
          · simp only [body]
            exact .inl ⟨failed, rfl⟩

/-! ## Any request -/

/-- What a response tells about the store: the replacement that it reports has been
made and nothing else, it fits, its submission is there, and its body was not too
large.  A successful request for writing always reports one. -/
structure Answered (before : Store) (request : Request) (response : Response) (after : Store) :
    Prop where
  store : after = before.replaceAll (replaced? request response).toList
  fits : ∀ replacement, replaced? request response = some replacement →
    replacement.part.Fits replacement.key ∧ replacement.key ∈ before.keys ∧
      request.body.utf8ByteSize ≤ maximalBodySize
  reports : request.method = .put → response.isSuccess = true →
    ∃ replacement, replaced? request response = some replacement

/-- Nothing is replaced without a request for writing, nor when it fails. -/
theorem replaced?_of_idle {response : Response}
    (idle : request.method ≠ .put ∨ response.isSuccess = false) :
    replaced? request response = none := by
  apply if_neg
  rintro ⟨put, succeeded⟩
  rcases idle with other | failed
  · exact other put
  · exact Bool.false_ne_true (failed.symm.trans succeeded)

theorem Answered.idle {response : Response}
    (idle : request.method ≠ .put ∨ response.isSuccess = false) :
    Answered store request response store := by
  have none := replaced?_of_idle idle
  refine ⟨?_, ?_, ?_⟩
  · rw [none]
    rfl
  · rw [none]
    exact nofun
  · intro put succeeded
    rcases idle with other | failed
    · exact absurd put other
    · exact absurd (failed.symm.trans succeeded) Bool.false_ne_true

theorem Written.answered {outcome : Outcome} (put : request.method = .put)
    (written : Written request store outcome) : Answered store request outcome.1 outcome.2 := by
  rcases written with ⟨failed, same⟩ | ⟨succeeded, replacement, asked, same, fits⟩
  · rw [same]
    exact .idle (.inr failed)
  · have reported : replaced? request outcome.1 = some replacement :=
      (if_pos ⟨put, succeeded⟩).trans asked
    refine ⟨?_, ?_, fun _ _ => ⟨replacement, reported⟩⟩
    · rw [same, reported]
      rfl
    · intro other reportedOther
      cases Option.some.inj (reported.symm.trans reportedOther)
      exact fits

theorem answered_respondAt {route : Route} (leads : Route.ofTarget? request.target = some route) :
    Answered service.store request (service.respondAt request route).1
      (service.respondAt request route).2 := by
  unfold respondAt
  dsimp only
  generalize (if knows route request.method then none else some (allowed route)) = allow
  by_cases preflight : request.method = .options
  · rw [if_pos preflight]
    exact .idle (.inl (preflight ▸ Method.noConfusion))
  rw [if_neg preflight]
  by_cases refusal : (!isOpen route && !service.access.admits request.authorization) = true
  · rw [if_pos refusal]
    exact .idle (.inr rfl)
  rw [if_neg refusal]
  cases method : request.method with
  | get | head | options | other name => exact .idle (.inl (method ▸ Method.noConfusion))
  | put =>
      dsimp only
      split_ifs
      · exact .idle (.inr rfl)
      · exact (written_write leads).answered method

/-- The service makes the replacement that its response reports, and does nothing
else. -/
theorem answered_respond (service : Service) (request : Request) :
    (service.respond request).2.access = service.access ∧
      Answered service.store request (service.respond request).1
        (service.respond request).2.store := by
  unfold respond
  cases leads : Route.ofTarget? request.target with
  | some route => exact ⟨rfl, answered_respondAt leads⟩
  | none =>
      refine ⟨rfl, .idle ?_⟩
      by_cases preflight : request.method = .options
      · exact .inl (preflight ▸ Method.noConfusion)
      · right
        simp only [preflight, if_false]
        rfl

/-- What is fetched from a place is what stands there. -/
theorem read_of_place? {route : Route} (succeeded : (read store route).isSuccess = true) :
    route = .health ∨ ∃ place part, route.place? = some place ∧ store.part? place = some part ∧
      read store route = .json part.toJson := by
  cases route with
  | health => exact .inl rfl
  | submission path =>
      right
      simp only [read, Route.place?] at succeeded ⊢
      cases named : path.toKey with
      | error error =>
          rw [named] at succeeded
          cases succeeded
      | ok key =>
          simp only [named, getSubmission] at succeeded ⊢
          cases found : store.get? key with
          | none =>
              rw [found] at succeeded
              cases succeeded
          | some stored =>
              refine ⟨_, .record stored.submission, rfl, ?_, rfl⟩
              simp only [Store.part?, found, Option.map_some, StoredSubmission.part]
  | properties path =>
      right
      simp only [read, Route.place?] at succeeded ⊢
      cases named : path.toKey with
      | error error =>
          rw [named] at succeeded
          cases succeeded
      | ok key =>
          simp only [named, getProperties] at succeeded ⊢
          cases found : store.get? key with
          | none =>
              rw [found] at succeeded
              cases succeeded
          | some stored =>
              refine ⟨_, .properties stored.properties, rfl, ?_, rfl⟩
              simp only [Store.part?, found, Option.map_some, StoredSubmission.part]

/-- A successful request for reading is answered with what stands in its place,
unless it asks for the health of the service. -/
theorem respond_of_get (method : request.method = .get)
    (succeeded : (service.respond request).1.isSuccess = true) :
    Route.ofTarget? request.target = some .health ∨
      ∃ place part, request.place? = some place ∧ service.store.part? place = some part ∧
        (service.respond request).1 = .json part.toJson := by
  unfold respond at succeeded ⊢
  unfold Request.place?
  cases leads : Route.ofTarget? request.target with
  | none =>
      simp only [leads, method, reduceCtorEq, if_false] at succeeded
      cases succeeded
  | some route =>
      simp only [leads, respondAt, method, reduceCtorEq, if_false] at succeeded ⊢
      by_cases refusal : (!isOpen route && !service.access.admits request.authorization) = true
      · rw [if_pos refusal] at succeeded
        cases succeeded
      · rw [if_neg refusal] at succeeded ⊢
        rcases read_of_place? succeeded with rfl | ⟨place, part, named, found, answer⟩
        · exact .inl rfl
        · exact .inr ⟨place, part, named, found, answer⟩

/-! ## What a request looks at -/

section Locality

variable {service other : Service} {left right : Store} {request : Request} {route : Route}
  {place : Place} {key : SubmissionKey}

theorem putProperties_congr (same : left.get? key = right.get? key) (payload : Json) :
    (putProperties left key payload).1 = (putProperties right key payload).1 := by
  unfold putProperties Store.setProperties?
  rw [same]
  split
  · rfl
  · rfl
  · cases right.get? key with
    | none => rfl
    | some stored => rfl

theorem putSubmission_congr (same : left.get? key = right.get? key) (submission : Submission) :
    (putSubmission left key submission).1 = (putSubmission right key submission).1 := by
  unfold putSubmission Store.setSubmission?
  rw [same]
  split_ifs
  · rfl
  · cases right.get? key with
    | none => rfl
    | some stored => rfl

/-- The key of a place is what stands in the path. -/
theorem toKey_of_place? {path : PathKey} {aspect : Aspect}
    (leads : path.toKey.toOption.map (⟨·, aspect⟩) = some place) : path.toKey = .ok place.key := by
  rcases Option.map_eq_some_iff.1 leads with ⟨key, named, rfl⟩
  cases read : path.toKey with
  | error error =>
      rw [read] at named
      cases named
  | ok other =>
      rw [read] at named
      cases named
      rfl

theorem read_congr (leads : route.place? = some place)
    (same : left.get? place.key = right.get? place.key) : read left route = read right route := by
  cases route with
  | health => rfl
  | submission path | properties path =>
      simp only [read, toKey_of_place? leads, getSubmission, getProperties, same]

theorem write_congr (leads : route.place? = some place)
    (same : left.get? place.key = right.get? place.key) :
    (write left request route).1 = (write right request route).1 := by
  cases route with
  | health => rfl
  | submission path =>
      simp only [write, toKey_of_place? leads]
      cases readBody Submission.reader request with
      | error response => rfl
      | ok submission => exact putSubmission_congr same submission
  | properties path =>
      simp only [write, toKey_of_place? leads]
      cases readBody Json.keep request with
      | error response => rfl
      | ok payload => exact putProperties_congr same payload

/-- Of all submissions a request looks at the one that its path names. -/
theorem respond_congr (named : request.place? = some place)
    (access : service.access = other.access)
    (same : service.store.get? place.key = other.store.get? place.key) :
    (service.respond request).1 = (other.respond request).1 := by
  rcases Option.bind_eq_some_iff.1 named with ⟨route, leads, placed⟩
  simp only [respond, leads, respondAt, access, read_congr placed same]
  generalize (if knows route request.method then none else some (allowed route)) = allow
  by_cases preflight : request.method = .options
  · rw [if_pos preflight, if_pos preflight]
  rw [if_neg preflight, if_neg preflight]
  by_cases refusal : (!isOpen route && !other.access.admits request.authorization) = true
  · rw [if_pos refusal, if_pos refusal]
  rw [if_neg refusal, if_neg refusal]
  cases request.method with
  | get | head | options | other name => rfl
  | put =>
      dsimp only
      split_ifs
      · rfl
      · exact write_congr placed same

end Locality

end Service

end Gradebook
