import Gradebook.Proofs.Service.Replacement

namespace Gradebook

/-!
# Histories of a service

A service begins with a seed and answers requests.  Its submissions are always those
of the seed, each under its own key, and its properties are always those of the seed
or a ledger.  Beyond that it is a map of parts: a successful request for writing
replaces one part, a successful request for reading fetches what was written last,
and nothing else ever happens to the store.
-/

/-! ## Seeds -/

namespace Json

variable {α : Type} {property : α → Prop}

theorem Yields.sequence {read : Reader α} (yields : Yields read property) :
    Yields (sequenceReader read) fun values => ∀ value ∈ values, property value := by
  intro origin document values accepted value listed
  rcases exists_of_sequenceReader accepted with ⟨inner, _, _, _, _, matched⟩
  rcases exists_of_forall₂ matched value listed with ⟨item, _, readItem⟩
  exact yields inner item value readItem

theorem Yields.once {read : Reader α} (yields : Yields read property) {origin : Origin}
    {document : Document} {name : String} {slot result : Option α}
    (stored : Json.once name slot (read origin document) = .ok result) :
    ∀ value, result = some value → property value := by
  rcases (once_eq_ok_iff.1 stored).2 with ⟨content, accepted, rfl⟩
  rintro value ⟨rfl⟩
  exact yields origin document content accepted

theorem Yields.nextRequired {read : Reader α} (yields : Yields read property)
    {elements rest : Elements} {position : Nat} {expected : String} {value : α}
    (accepted : elements.nextRequired read position expected = .ok (value, rest)) :
    property value := by
  rcases nextRequired_eq_ok_iff.1 accepted with ⟨item, others, _, readItem, _⟩
  exact yields elements.origin item value readItem

end Json

namespace StoredSubmission

/-- What a submission carries along and its properties are canonical. -/
def Canonical (stored : StoredSubmission) : Prop :=
  stored.submission.extra.Every Json.Canonical ∧ stored.properties.Canonical

/-- The same of the fields that have been read so far. -/
structure Fields.Canonical (fields : Fields) : Prop where
  record : ∀ submission, fields.submission = some submission →
    submission.extra.Every Json.Canonical
  properties : ∀ payload, fields.properties = some payload → payload.Canonical

theorem Fields.canonical_none : ({} : Fields).Canonical where
  record submission impossible := by cases impossible
  properties payload impossible := by cases impossible

theorem Fields.canonical_read {origin : Json.Origin} {fields next : Fields} {name : String}
    {document : Json.Document} (canonical : fields.Canonical)
    (stepped : fields.read origin name document = .ok next) : next.Canonical := by
  unfold Fields.read at stepped
  split at stepped
  · rcases Outcome.bind_eq_ok.1 stepped with ⟨_, _, ⟨rfl⟩⟩
    exact ⟨canonical.record, canonical.properties⟩
  · rcases Outcome.bind_eq_ok.1 stepped with ⟨_, _, ⟨rfl⟩⟩
    exact ⟨canonical.record, canonical.properties⟩
  · rcases Outcome.bind_eq_ok.1 stepped with ⟨_, stored, ⟨rfl⟩⟩
    exact ⟨Service.yields_canonical_submission.once stored, canonical.properties⟩
  · rcases Outcome.bind_eq_ok.1 stepped with ⟨_, stored, ⟨rfl⟩⟩
    exact ⟨canonical.record, Json.yields_canonical_keep.once stored⟩
  · rcases Outcome.bind_eq_ok.1 stepped with ⟨_, _, ⟨rfl⟩⟩
    exact canonical

/-- What is read is canonical, whether it stands as an object or as an array. -/
theorem yields_canonical : Json.Yields reader Canonical := by
  intro origin document stored accepted
  cases document with
  | object members ending =>
      simp only [reader, Json.recordReader, Outcome.bind_eq_ok] at accepted
      rcases accepted with ⟨inner, _, fields, folded, accepted⟩
      have kept : ∀ fields name document next, fields.Canonical →
          Fields.read inner fields name document = .ok next → next.Canonical :=
        fun _ _ _ _ => Fields.canonical_read
      have canonical : fields.Canonical := Json.foldMembers_induction kept Fields.canonical_none folded
      simp only [Fields.toStored, Outcome.bind_eq_ok, Json.required_eq_ok_iff] at accepted
      rcases accepted with ⟨lecture, _, assignment, _, submission, record, payload, properties,
        ⟨rfl⟩⟩
      exact ⟨canonical.record submission record, canonical.properties payload properties⟩
  | array items ending =>
      simp only [reader, Json.recordReader, ofElements, Outcome.bind_eq_ok, Prod.exists] at accepted
      rcases accepted with ⟨inner, _, _, _, _, _, _, _, submission, _, record, payload, _, properties,
        _, _, ⟨rfl⟩⟩
      exact ⟨Service.yields_canonical_submission.nextRequired record,
        Json.yields_canonical_keep.nextRequired properties⟩
  | null | bool b | number n | string content | broken fault =>
      exact absurd accepted Json.refuse_ne_ok

end StoredSubmission

/-! ## Stores -/

namespace Store

variable {store : Store} {replacement : Replacement}

/-- All submissions of a store are canonical. -/
def Canonical (store : Store) : Prop :=
  ∀ key stored, store.get? key = some stored → stored.Canonical

theorem canonical_ofList {submissions : List StoredSubmission}
    (canonical : ∀ stored ∈ submissions, stored.Canonical) : (ofList submissions).Canonical := by
  intro key stored found
  rw [get?_ofList] at found
  exact canonical stored (List.mem_reverse.1 (List.mem_of_find?_eq_some found))

/-- A store that is built from a seed is the store of the list that was read. -/
theorem exists_of_ofSeed {text : String} (accepted : ofSeed text = .ok store) :
    ∃ submissions, Json.readText (Json.sequenceReader StoredSubmission.reader) text =
        .ok submissions ∧ store = ofList submissions ∧ store.Sound ∧ store.Canonical := by
  rcases Outcome.bind_eq_ok.1 accepted with ⟨submissions, read, ⟨rfl⟩⟩
  have canonical := StoredSubmission.yields_canonical.sequence.text read
  exact ⟨submissions, read, rfl, sound_ofList fun stored listed => (canonical stored listed).1,
    canonical_ofList canonical⟩

theorem Sound.replace (sound : store.Sound) (fits : replacement.part.Fits replacement.key) :
    (store.replace replacement).Sound := by
  apply sound.modify
  intro stored found
  have named := sound.keyed replacement.key stored found
  rcases replacement with ⟨key, part⟩
  cases part with
  | record submission =>
      refine ⟨?_, fits.2⟩
      rw [← named] at fits ⊢
      exact congrArg (SubmissionKey.mk stored.lecture stored.assignment) fits.1
  | properties payload => exact ⟨named, sound.canonical key stored found⟩

theorem Canonical.replace (canonical : store.Canonical)
    (fits : replacement.part.Fits replacement.key) : (store.replace replacement).Canonical := by
  intro key stored found
  rw [Store.replace, get?_modify] at found
  split_ifs at found
  · rcases Option.map_eq_some_iff.1 found with ⟨old, before, rfl⟩
    rcases replacement with ⟨key, part⟩
    cases part with
    | record submission => exact ⟨fits.2, (canonical _ old before).2⟩
    | properties payload => exact ⟨(canonical _ old before).1, fits.2⟩
  · exact canonical key stored found

/-- What every fitting replacement keeps holds after all of them. -/
theorem replaceAll_induction {invariant : Store → Prop} {replacements : List Replacement}
    (fit : ∀ replacement ∈ replacements, replacement.part.Fits replacement.key)
    (kept : ∀ (store : Store) (replacement : Replacement),
      replacement.part.Fits replacement.key → invariant store →
        invariant (store.replace replacement))
    (holds : invariant store) : invariant (store.replaceAll replacements) := by
  induction replacements generalizing store with
  | nil => exact holds
  | cons first rest inductionHypothesis =>
      have next := kept store first (fit first List.mem_cons_self) holds
      exact inductionHypothesis (fun later listed => fit later (List.mem_cons_of_mem first listed))
        next

theorem Sound.replaceAll (sound : store.Sound) {replacements : List Replacement}
    (fit : ∀ replacement ∈ replacements, replacement.part.Fits replacement.key) :
    (store.replaceAll replacements).Sound :=
  replaceAll_induction fit (fun _ _ fits sound => sound.replace fits) sound

theorem Canonical.replaceAll (canonical : store.Canonical) {replacements : List Replacement}
    (fit : ∀ replacement ∈ replacements, replacement.part.Fits replacement.key) :
    (store.replaceAll replacements).Canonical :=
  replaceAll_induction fit (fun _ _ fits canonical => canonical.replace fits) canonical

end Store

/-! ## Runs -/

namespace Service

variable {service : Service}

/-- The replacements that requests have brought about, the last one at the end. -/
def replacements (requests : List Request) (responses : List Response) : List Replacement :=
  (requests.zip responses).filterMap fun exchange => replaced? exchange.1 exchange.2

theorem replacements_cons (request : Request) (requests : List Request) (response : Response)
    (responses : List Response) :
    replacements (request :: requests) (response :: responses) =
      (replaced? request response).toList ++ replacements requests responses := by
  rw [replacements, List.zip_cons_cons, List.filterMap_cons]
  cases replaced? request response with
  | none => rfl
  | some replacement => rfl

/-- Every replacement of a history fits. -/
theorem fit_replacements (service : Service) (requests : List Request) :
    ∀ replacement ∈ replacements requests (service.respondAll requests).1,
      replacement.part.Fits replacement.key := by
  induction requests generalizing service with
  | nil => exact nofun
  | cons request rest inductionHypothesis =>
      intro replacement listed
      simp only [respondAll, replacements_cons, List.mem_append, Option.mem_toList] at listed
      rcases listed with now | later
      · exact ((answered_respond service request).2.fits replacement now).1
      · exact inductionHypothesis _ replacement later

/-- After a history the store is the one before with its replacements made. -/
theorem respondAll_eq (service : Service) (requests : List Request) :
    (service.respondAll requests).2 =
      { service with
        store := service.store.replaceAll
          (replacements requests (service.respondAll requests).1) } := by
  induction requests generalizing service with
  | nil => rfl
  | cons request rest inductionHypothesis =>
      have answered := answered_respond service request
      simp only [respondAll, replacements_cons, Store.replaceAll, List.foldl_append]
      rw [inductionHypothesis, answered.1, answered.2.store]
      rfl

/-- Whatever a service has been asked that was built from a seed, its store is sound and all
that stands in it is canonical.  What is assumed of the store where a client loads, saves or
grades holds in every state that such a service comes to. -/
theorem sound_and_canonical_of_ofSeed {text : String} {seed : Store}
    (accepted : Store.ofSeed text = .ok seed) (access : Access) (requests : List Request) :
    (Service.respondAll ⟨access, seed⟩ requests).2.store.Sound ∧
      (Service.respondAll ⟨access, seed⟩ requests).2.store.Canonical := by
  rcases Store.exists_of_ofSeed accepted with ⟨_, _, _, sound, canonical⟩
  have fit := fit_replacements ⟨access, seed⟩ requests
  rw [respondAll_eq]
  exact ⟨sound.replaceAll fit, canonical.replaceAll fit⟩

/-- What stays as it was in the seed. -/
structure Kept (seed store : Store) : Prop where
  keys : store.keys = seed.keys
  size : store.size = seed.size
  keyed : ∀ key stored, store.get? key = some stored → stored.key = key
  properties : ∀ key stored, store.get? key = some stored →
    (∃ old, seed.get? key = some old ∧ stored.properties = old.properties) ∨
      ∃ ledger, Ledger.ofJson stored.properties = .ok ledger

theorem Kept.replaceAll {seed : Store} (sound : seed.Sound) {replacements : List Replacement}
    (fit : ∀ replacement ∈ replacements, replacement.part.Fits replacement.key) :
    Kept seed (seed.replaceAll replacements) := by
  have keys := Store.keys_replaceAll seed replacements
  have soundAfter : (seed.replaceAll replacements).Sound := sound.replaceAll fit
  refine ⟨keys, ?_, soundAfter.keyed, ?_⟩
  · rw [Store.size_eq_length_keys, keys, ← Store.size_eq_length_keys]
  · intro key stored found
    have part := Store.part?_replaceAll seed replacements ⟨key, .properties⟩
    rw [Store.part?, found, Option.map_some] at part
    rcases Option.map_eq_some_iff.1 part.symm with ⟨old, before, now⟩
    cases last : (replacements.filter (·.place = ⟨key, .properties⟩)).getLast? with
    | none =>
        rw [last, Option.map_none, Option.getD_none] at now
        rcases Option.map_eq_some_iff.1 before with ⟨seeded, foundSeeded, rfl⟩
        exact .inl ⟨seeded, foundSeeded, (Part.properties.inj now).symm⟩
    | some replacement =>
        rw [last, Option.map_some, Option.getD_some] at now
        have listed := List.mem_of_mem_filter (List.mem_of_getLast? last)
        have fits := fit replacement listed
        rw [now] at fits
        exact .inr fits.1

/-- How a service that was built from a seed serves one request, after a history of
replacements. -/
structure Serves (seed : Store) (history : List Replacement) (service : Service)
    (request : Request) (response : Response) (after : Service) : Prop where
  /-- A failure has no effect. -/
  failed : response.isSuccess = false → after = service
  /-- Only requests for writing have an effect. -/
  reading : request.method ≠ .put → after = service
  /-- A successful request for writing replaces the part that its path names by the
  content of its body. -/
  replaces : request.method = .put → response.isSuccess = true →
    ∃ replacement, request.place? = some replacement.place ∧
      request.replacement? = some replacement ∧ replacement.key ∈ service.store.keys ∧
      after.access = service.access ∧
      ∀ place, after.store.part? place =
        if place = replacement.place then some replacement.part else service.store.part? place
  /-- A successful request for reading fetches what was written last. -/
  fetches : request.method = .get → response.isSuccess = true →
    Route.ofTarget? request.target = some .health ∨
      ∃ place initial, request.place? = some place ∧ seed.part? place = some initial ∧
        response = .json (((history.filter (·.place = place)).getLast?.map
          Replacement.part).getD initial).toJson

theorem serves_respond {seed : Store} {history : List Replacement}
    (made : service.store = seed.replaceAll history) (request : Request) :
    Serves seed history service request (service.respond request).1
      (service.respond request).2 := by
  rcases answered_respond service request with ⟨access, answered⟩
  have idle : (request.method ≠ .put ∨ (service.respond request).1.isSuccess = false) →
      (service.respond request).2 = service := by
    intro idle
    have store := answered.store
    rw [replaced?_of_idle idle] at store
    exact Service.ext access store
  refine ⟨fun failed => idle (.inr failed), fun other => idle (.inl other), ?_, ?_⟩
  · intro put succeeded
    rcases answered.reports put succeeded with ⟨replacement, reported⟩
    have known := (answered.fits replacement reported).2.1
    have asked : request.replacement? = some replacement := by
      rw [← reported]
      exact (if_pos ⟨put, succeeded⟩).symm
    refine ⟨replacement, Request.place_of_replacement? asked, asked, known, access, ?_⟩
    intro place
    rw [answered.store, reported]
    exact Store.part?_replace_of_known known place
  · intro get succeeded
    rcases respond_of_get get succeeded with health | ⟨place, part, named, found, answer⟩
    · exact .inl health
    · rw [made, Store.part?_replaceAll] at found
      rcases Option.map_eq_some_iff.1 found with ⟨initial, seeded, rfl⟩
      exact .inr ⟨place, initial, named, seeded, answer⟩

/-- The service is a map with validated replacement.  It begins with the last
submission of the seed for every key.  After any history the submissions are those of
the seed, each under its own key, with the properties of the seed or others that are a
ledger, and any further request is served as such a map serves it. -/
theorem respondAll_ofSeed {text : String} {seed : Store} (accepted : Store.ofSeed text = .ok seed)
    (access : Access) (requests : List Request) :
    (∃ submissions, Json.readText (Json.sequenceReader StoredSubmission.reader) text =
        .ok submissions ∧
      (∀ key, seed.get? key = submissions.reverse.find? (·.key = key)) ∧
      seed.size = (submissions.map StoredSubmission.key).toFinset.card) ∧
    let service := (Service.respondAll ⟨access, seed⟩ requests).2
    let history := replacements requests (Service.respondAll ⟨access, seed⟩ requests).1
    Kept seed service.store ∧
      ∀ request, Serves seed history service request (service.respond request).1
        (service.respond request).2 := by
  rcases Store.exists_of_ofSeed accepted with ⟨submissions, read, rfl, sound, _⟩
  refine ⟨⟨submissions, read, Store.get?_ofList submissions, Store.size_ofList submissions⟩, ?_⟩
  have store := congrArg Service.store (respondAll_eq ⟨access, Store.ofList submissions⟩ requests)
  refine ⟨?_, serves_respond store⟩
  rw [store]
  exact .replaceAll sound (fit_replacements _ requests)

/-! ## A seed that repeats a key -/

namespace Repeated

/-- A seed with two submissions for one key. -/
def text : String :=
  "[\x7b\"lecture_id\":1,\"assignment_id\":2,\"submission\":\x7b\"id\":3," ++
    "\"manual_status\":\"not_graded\"\x7d,\"properties\":\x7b\x7d\x7d," ++
    "[1,2,\x7b\"manual_status\":\"being_edited\",\"id\":3\x7d,null]]"

/-- The store of the seed. -/
def seed : Store := (Store.ofSeed text).toOption.getD .empty

/-- The path of the properties. -/
def target : String := SubmissionKey.mount ++ "/lectures/1/assignments/2/submissions/3/properties"

/-- Properties are replaced, properties are refused, and what stands there is fetched. -/
def requests : List Request :=
  [⟨.put, target, none, some "application/json", "\x7b\x7d"⟩,
    ⟨.put, target, none, some "application/json", "[]"⟩,
    ⟨.get, target, none, none, ""⟩]

theorem ofSeed_text : Store.ofSeed text = .ok seed := by
  have accepted : (Store.ofSeed text).isOk = true := by decide +kernel
  exact Outcome.eq_ok_getD accepted .empty

end Repeated

/-- Of two submissions for one key the last one counts, and its properties, which were
no ledger, are replaced by one. -/
theorem respondAll_ofSeed_repeated :
    Store.ofSeed Repeated.text = .ok Repeated.seed ∧ Repeated.seed.size = 1 ∧
    let history := Service.respondAll ⟨⟨none⟩, Repeated.seed⟩ Repeated.requests
    history.1.map Response.status = [204, 400, 200] ∧
      history.1.getLast?.map Response.body = some "\x7b\x7d" ∧
      Kept Repeated.seed history.2.store ∧
      ∀ request, Serves Repeated.seed (replacements Repeated.requests history.1) history.2 request
        (history.2.respond request).1 (history.2.respond request).2 := by
  have computed : Repeated.seed.size = 1 ∧
      let responses := (Service.respondAll ⟨⟨none⟩, Repeated.seed⟩ Repeated.requests).1
      responses.map Response.status = [204, 400, 200] ∧
        responses.getLast?.map Response.body = some "\x7b\x7d" := by
    decide +kernel
  rcases computed with ⟨size, statuses, body⟩
  exact ⟨Repeated.ofSeed_text, size, statuses, body,
    (respondAll_ofSeed Repeated.ofSeed_text ⟨none⟩ Repeated.requests).2⟩

end Service

end Gradebook
