import Gradebook.Proofs.Client.Answers

namespace Gradebook

/-!
# What loading does

Loading changes nothing and gives the ledger of the text that the service sends, whatever
the store holds.
-/

/-- The text of a value does not begin with a byte order mark. -/
theorem Client.plainText_compress (value : Json) : plainText value.compress = value.compress := by
  have first : ∃ c rest, value.compress.toList = c :: rest ∧ c ≠ '\ufeff' := by
    rw [Json.compress, String.toList_ofList]
    cases value with
    | null => exact ⟨'n', _, rfl, by decide⟩
    | bool b =>
        cases b with
        | true => exact ⟨'t', _, rfl, by decide⟩
        | false => exact ⟨'f', _, rfl, by decide⟩
    | number n =>
        rcases Json.exists_cons_of_scanNumber n.scanNumber_write with ⟨c, rest, text, digit⟩
        exact ⟨c, rest, text, Json.ne_of_first digit '\ufeff' (by decide)⟩
    | string s => exact ⟨'"', _, rfl, by decide⟩
    | array items => exact ⟨'[', _, rfl, by decide⟩
    | object members => exact ⟨'\x7b', _, rfl, by decide⟩
  rcases first with ⟨c, rest, text, marked⟩
  unfold plainText
  split
  · next other =>
      rw [text] at other
      exact absurd (List.cons.inj other).1 marked
  · rfl

namespace Sync

variable {sync : Sync} {network : Network} {key : SubmissionKey} {ledger : Ledger}

/-- A ledger that has been loaded is that of the text of the properties. -/
theorem exists_of_loaded {address : String} {service : Service} {reply : Reply}
    (knows : sync.client.Knows address)
    (answers : Network.Answers address service (sync.loadCall key) reply)
    (loads : loaded reply = .ok ledger) :
    ∃ old, service.store.get? key = some old ∧
      Ledger.ofText old.properties.compress = .ok ledger := by
  unfold loaded at loads
  cases succeeded : Client.successBody reply with
  | error error =>
      rw [succeeded] at loads
      cases loads
  | ok body =>
      rw [succeeded] at loads
      rcases answers.load knows succeeded with ⟨old, found, rfl⟩
      refine ⟨old, found, ?_⟩
      rw [← Client.plainText_compress]
      exact Outcome.mapError_eq_ok.1 loads

/-- Loading leaves the service alone. -/
theorem run_load (connected : Connected sync.client network) :
    ∃ result after, (sync.load key).run Network.exchange network = (result, after) ∧
      after.service = network.service ∧ Connected sync.client after ∧
      ∀ ledger, result = .ok ledger → ∃ old, network.service.store.get? key = some old ∧
        Ledger.ofText old.properties.compress = .ok ledger := by
  rw [load_eq]
  cases sync.authorize key with
  | error error => exact ⟨_, _, rfl, rfl, connected, nofun⟩
  | ok _ =>
      rcases connected.reaches with ⟨address, listens, knows⟩
      rcases Network.exchange_replaces (sync.loadCall key) listens connected.failing with
        ⟨reply, after, exchanged, follows, answers, served⟩
      rw [Network.replaced?_of_get rfl] at served
      refine ⟨loaded reply, after, ?_, served, connected.follows follows, ?_⟩
      · simp only [Dialogue.run, exchanged]
      · intro ledger loads
        exact exists_of_loaded knows answers loads

end Sync

end Gradebook
