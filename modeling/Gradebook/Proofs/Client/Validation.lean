import Gradebook.Proofs.Client.RoundTrip
import Gradebook.Proofs.Ledger.Agreement

namespace Gradebook

/-!
# What was validated is what is loaded

The service validates properties as a value, which it keeps of a text.  A client reads
their text.  `readers_agree` compares the two readings of a text, and follows what the
service accepts until a client loads it.

The comparison has one exception, that for embedded texts: an object that begins with the
embedding key is replaced where it is kept.  In a payload that is literal none of the
objects that grading interprets is such an object.  Among the values that are carried
along one can come up even so, when its keys are put in order, and then the service
refuses what the client reads.

Of texts it is assumed that the text of the accepted value is read back as this value.
-/

namespace Service

variable {service : Service} {requests : List Request} {key : SubmissionKey} {payload : Json}

/-- The request that replaces properties asks for just this. -/
theorem replacement?_propertiesRequest (authorization : Option String) (key : SubmissionKey)
    {payload : Json} (kept : Json.readText Json.keep payload.compress = .ok payload) :
    (propertiesRequest authorization key payload).replacement? =
      some ⟨key, .properties payload⟩ := by
  have body : Part.ofBody? (propertiesRequest authorization key payload).body .properties =
      some (.properties payload) := by
    rw [Part.ofBody?, propertiesRequest, kept]
    rfl
  rw [Request.replacement?, Request.place?_properties rfl, Option.bind_some, body]
  rfl

/-- The properties of a submission that were accepted last, in a history that there is. -/
def LastAccepted (service : Service) (requests : List Request) (key : SubmissionKey)
    (payload : Json) : Prop :=
  ((replacements requests (service.respondAll requests).1).filter
    (·.place = ⟨key, .properties⟩)).getLast? = some ⟨key, .properties payload⟩

/-- Only submissions that are there have been changed. -/
theorem known_replacements (service : Service) (requests : List Request) :
    ∀ replacement ∈ replacements requests (service.respondAll requests).1,
      replacement.key ∈ service.store.keys := by
  induction requests generalizing service with
  | nil => exact nofun
  | cons request rest inductionHypothesis =>
      intro replacement listed
      have answered := (answered_respond service request).2
      simp only [respondAll, replacements_cons, List.mem_append, Option.mem_toList] at listed
      rcases listed with now | later
      · exact (answered.fits replacement now).2.1
      · have known := inductionHypothesis _ replacement later
        rwa [answered.store, Store.keys_replaceAll] at known

/-- Properties that were accepted last are a ledger, and stand in the store. -/
theorem LastAccepted.stored (accepted : service.LastAccepted requests key payload) :
    (Part.properties payload).Fits key ∧
      ∃ stored, (service.respondAll requests).2.store.get? key = some stored ∧
        stored.properties = payload := by
  have listed := List.mem_of_mem_filter (List.mem_of_getLast? accepted)
  refine ⟨fit_replacements service requests _ listed, ?_⟩
  rcases Store.mem_keys_iff.1 (known_replacements service requests _ listed) with ⟨old, found⟩
  have part := Store.part?_replaceAll service.store
    (replacements requests (service.respondAll requests).1) ⟨key, .properties⟩
  rw [LastAccepted] at accepted
  rw [accepted, Store.part?, Store.part?, found] at part
  rcases Option.map_eq_some_iff.1 part with ⟨stored, foundAfter, same⟩
  refine ⟨stored, ?_, Part.properties.inj same⟩
  rw [respondAll_eq]
  exact foundAfter

end Service

namespace Sync

/-- Properties that were accepted last are loaded as the ledger that they were validated
as. -/
theorem exists_load_of_lastAccepted {service : Service} {requests : List Request}
    {key : SubmissionKey} {payload : Json} (accepted : service.LastAccepted requests key payload)
    (readsBack : Json.readText Json.keep payload.compress = .ok payload) :
    ∃ ledger, Ledger.ofJson payload = .ok ledger ∧
      ∀ (sync : Sync) (network : Network), network.service = (service.respondAll requests).2 →
        Served sync.client network → sync.session.canGrade key.lecture = true →
          ((sync.load key).run Network.exchange network).1 = .ok ledger := by
  rcases accepted.stored with ⟨⟨⟨ledger, validated⟩, canonical⟩, stored, found, rfl⟩
  have durable := (Json.readText_keep_compress_iff canonical).1 readsBack
  refine ⟨ledger, validated, fun sync network reached served permitted => ?_⟩
  rw [(run_load_of_served served permitted (reached ▸ found)).1,
    (Ledger.ofText_compress_eq_ok_iff canonical durable).2 validated]
  rfl

/-- The client's reader of texts and the service's reader of values agree.

However often a text repeats the keys of notebooks, of cells or of members that are carried
along: a ledger that is read off it is read off the value that is kept of it just when this
value is the payload of the ledger and nothing that is carried along stands for an embedded
text.  For a literal payload the first always holds.  Where a literal payload repeats no
key, the one reader accepts it when the other does, and both give the same ledger.

So whatever requests the service has answered, the properties that it accepted last are
loaded as the ledger that it validated. -/
theorem readers_agree (text : String) :
    let document := (Json.parse text).document
    (∀ ledger, Ledger.ofText text = .ok ledger →
      (Ledger.ReadAsValue text ledger ↔
        Json.readText Json.keep text = .ok ledger.toJson ∧
          ∀ value, ledger.Carries value → value.Plain) ∧
      (Ledger.literal document = true → Json.readText Json.keep text = .ok ledger.toJson)) ∧
    (Ledger.literal document = true → document.distinct = true → ∀ ledger,
      Ledger.ReadAsValue text ledger ↔
        Ledger.ofText text = .ok ledger ∧ ∀ value, ledger.Carries value → value.Plain) ∧
    ∀ (service : Service) (requests : List Request) (key : SubmissionKey) (payload : Json),
      service.LastAccepted requests key payload →
      Json.readText Json.keep payload.compress = .ok payload →
      ∃ ledger, Ledger.ofJson payload = .ok ledger ∧
        ∀ (sync : Sync) (network : Network), network.service = (service.respondAll requests).2 →
          Served sync.client network → sync.session.canGrade key.lecture = true →
            ((sync.load key).run Network.exchange network).1 = .ok ledger := by
  intro document
  refine ⟨?repeating, ?distinct, ?loaded⟩
  case repeating =>
    intro ledger read
    exact ⟨Ledger.readAsValue_iff_of_ofText read,
      fun literal => Ledger.readText_keep_of_ofText literal read⟩
  case distinct =>
    intro literal distinct ledger
    exact Ledger.readAsValue_iff literal distinct
  case loaded =>
    intro service requests key payload accepted readsBack
    exact exists_load_of_lastAccepted accepted readsBack

end Sync

/-! ## Payloads that are read twice -/

namespace Twofold

/-- A payload that repeats a notebook, a cell of the second one, and a member of the second
cell that is carried along. -/
def repeating : String :=
  (Json.object [
    ("h", .object [("grades_dict", .object []), ("comments_dict", .object [])]),
    ("h", .object [("comments_dict", .object []), ("grades_dict", .object [
      ("c", .object [("manual_score", .null)]),
      ("c", .object [("x", .null), ("manual_score", .number (.natural 7)),
        ("x", .array [.bool true])])])])]).compress

/-- A payload that carries along an object in which the embedding key comes second. -/
def reordered : String :=
  (Json.object [("h", .object [("comments_dict", .object []), ("grades_dict", .object [
    ("c", .object [("x", .object [("a", .null), (Json.embeddingKey, .string "1")])])])])]).compress

/-- The request that puts the payload of the unedited submission where it was. -/
def request : Request :=
  Service.propertiesRequest (some "Bearer secret") ⟨1, 2, 3⟩ Unedited.payload

theorem lastAccepted :
    Unedited.network.service.LastAccepted [request] ⟨1, 2, 3⟩ Unedited.payload := by
  have accepted : (Ledger.ofJson Unedited.payload).isOk = true := by decide +kernel
  rcases Outcome.exists_of_isOk accepted with ⟨ledger, read⟩
  have kept := (Json.readText_keep_compress_iff Unedited.canonical_payload).2
    Unedited.durable_payload
  have taken : Service.received Json.keep Unedited.payload = some Unedited.payload :=
    Service.received_eq_some_iff.2 ⟨Unedited.transfers.small, kept⟩
  have found : Unedited.network.service.store.get? ⟨1, 2, 3⟩ = some Unedited.stored := rfl
  have admitted : Unedited.network.service.access.admits (some "Bearer secret") = true := by decide
  have answer := Service.respond_properties_of_received found admitted taken read
  have asked : request.replacement? = some ⟨⟨1, 2, 3⟩, .properties Unedited.payload⟩ :=
    Service.replacement?_propertiesRequest (some "Bearer secret") ⟨1, 2, 3⟩ kept
  have made : Service.replaced? request (.bare 204) =
      some ⟨⟨1, 2, 3⟩, .properties Unedited.payload⟩ := by
    rw [Service.replaced?, if_pos ⟨rfl, rfl⟩, asked]
  have history : (Unedited.network.service.respondAll [request]).1 = [.bare 204] := by
    rw [request, Service.respondAll, answer]
    rfl
  rw [Service.LastAccepted, history, Service.replacements_cons, made]
  rfl

end Twofold

namespace Sync

/-- A payload that repeats keys is read as one ledger by both; one that carries an object
along whose keys change their order is read by the client alone; and what a tutor's
request has put into the store is loaded by him as it was validated. -/
theorem readers_agree_of_repeats :
    (∃ ledger, Ledger.ofText Twofold.repeating = .ok ledger ∧
      (Json.parse Twofold.repeating).document.distinct = false ∧
      Ledger.ReadAsValue Twofold.repeating ledger) ∧
    (∃ ledger, Ledger.ofText Twofold.reordered = .ok ledger ∧
      (Json.parse Twofold.reordered).document.distinct = true ∧
      (¬ ∃ other, Ledger.ReadAsValue Twofold.reordered other) ∧
      ∃ value, ledger.Carries value ∧ ¬ value.Plain) ∧
    ∃ ledger, Ledger.ofJson Unedited.payload = .ok ledger ∧
      let service := (Unedited.network.service.respondAll [Twofold.request]).2
      let network := { Unedited.network with service }
      ((Unedited.sync.load ⟨1, 2, 3⟩).run Network.exchange network).1 = .ok ledger := by
  refine ⟨?repeating, ?reordered, ?loaded⟩
  case repeating =>
    have computed : (Ledger.ofText Twofold.repeating).isOk = true ∧
        Ledger.literal (Json.parse Twofold.repeating).document = true ∧
        (Json.parse Twofold.repeating).document.distinct = false ∧
        ((Ledger.ofText Twofold.repeating).toOption.map fun ledger =>
          (Ledger.ofJson ledger.toJson).isOk) = some true := by decide +kernel
    rcases computed with ⟨accepted, literal, repeats, again⟩
    rcases Outcome.exists_of_isOk accepted with ⟨ledger, read⟩
    rw [read] at again
    rcases Outcome.exists_of_isOk (Option.some.inj again) with ⟨other, readPayload⟩
    have agrees := (readers_agree Twofold.repeating).1 ledger read
    have kept := agrees.2 literal
    have plain := (Ledger.toJson_of_kept kept readPayload).2
    refine ⟨ledger, read, repeats, agrees.1.2 ⟨kept, fun value carried => ?_⟩⟩
    exact plain value (Ledger.uninterpreted_of_carries carried)
  case reordered =>
    have computed : (Ledger.ofText Twofold.reordered).isOk = true ∧
        Ledger.literal (Json.parse Twofold.reordered).document = true ∧
        (Json.parse Twofold.reordered).document.distinct = true ∧
        ((Ledger.ofText Twofold.reordered).toOption.map fun ledger =>
          (Ledger.ofJson ledger.toJson).isOk) = some false := by decide +kernel
    rcases computed with ⟨accepted, literal, distinct, again⟩
    rcases Outcome.exists_of_isOk accepted with ⟨ledger, read⟩
    rw [read] at again
    have unread : (Ledger.ofJson ledger.toJson).isOk = false := Option.some.inj again
    have kept := ((readers_agree Twofold.reordered).1 ledger read).2 literal
    have refused : ¬ ∃ other, Ledger.ReadAsValue Twofold.reordered other := by
      rintro ⟨other, payload, keptAgain, readPayload⟩
      cases kept.symm.trans keptAgain
      rw [readPayload] at unread
      cases unread
    refine ⟨ledger, read, distinct, refused, ?_⟩
    by_contra plain
    simp only [not_exists, not_and, not_not] at plain
    exact refused ⟨ledger, ((readers_agree Twofold.reordered).2.1 literal distinct ledger).2
      ⟨read, plain⟩⟩
  case loaded =>
    have kept := (Json.readText_keep_compress_iff Unedited.canonical_payload).2
      Unedited.durable_payload
    rcases (readers_agree "").2.2 Unedited.network.service [Twofold.request] ⟨1, 2, 3⟩
      Unedited.payload Twofold.lastAccepted kept with ⟨ledger, validated, loads⟩
    refine ⟨ledger, validated, ?_⟩
    -- how the service came about does not matter any more, but for its token
    have access : (Unedited.network.service.respondAll [Twofold.request]).2.access =
        Unedited.network.service.access := by rw [Service.respondAll_eq]
    generalize (Unedited.network.service.respondAll [Twofold.request]).2 = service at loads access ⊢
    have admitted : Admits service Unedited.sync.client :=
      ⟨some "Bearer secret", by decide +kernel, by rw [access]; decide⟩
    have failing : Network.Failing Unedited.network.faults := by
      intro fault listed
      cases listed
    exact loads Unedited.sync { Unedited.network with service } rfl
      ⟨⟨⟨"a", rfl, rfl⟩, failing⟩, rfl, admitted⟩ rfl

end Sync

end Gradebook
