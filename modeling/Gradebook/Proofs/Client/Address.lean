import Gradebook.Proofs.Client.Exchange

namespace Gradebook

/-!
# Where a client's calls arrive

A client writes the three numbers of a submission into one of two paths, puts its base URL
in front and sends the whole to the service.  The service is listening at some address; it
takes the target behind the address apart, segment by segment, and reads the three numbers
out of it.  Here the two meet: calls for the record of a submission arrive where records are
handled, calls for its properties where properties are handled, and both with the numbers
that the client wrote, over the whole range of 64 bits.

As a path can be read in one way only, different submissions have different paths.
-/

open SubmissionKey (mount)

/-! ## The base URL -/

namespace Client

/-- Slashes behind the base path do not count: with any number of them a client knows the
service at its address. -/
theorem knows_ofUrl (address : String) (slashes : Nat) (token : Option String) :
    (ofUrl (address ++ mount ++ String.ofList (List.replicate slashes '/')) token).Knows
      address := by
  have all : ∀ c ∈ List.replicate slashes '/', (decide (c = '/')) = true := fun c listed =>
    decide_eq_true (List.eq_of_mem_replicate listed)
  have stops : Decimal.Stops (fun c => decide (c = '/')) (address ++ mount).toList.reverse := by
    rw [String.toList_append, List.reverse_append]
    exact Decimal.stops_cons (by decide)
  rw [Knows, ofUrl, String.toList_append, String.toList_ofList, List.reverse_append,
    List.reverse_replicate, Decimal.dropWhile_of_all all stops, List.reverse_reverse,
    String.ofList_toList]

end Client

/-! ## Paths of different submissions -/

namespace SubmissionKey

variable {key other : SubmissionKey}

theorem written_injective (same : key.written = other.written) : key = other := by
  have read := PathKey.toKey_written key
  rw [same, PathKey.toKey_written other] at read
  exact (Except.ok.inj read).symm

theorem submissionPath_injective (same : key.submissionPath = other.submissionPath) :
    key = other := by
  have route := Route.ofTarget?_submission key
  rw [same, Route.ofTarget?_submission other] at route
  exact (written_injective (Route.submission.inj (Option.some.inj route))).symm

theorem propertiesPath_injective (same : key.propertiesPath = other.propertiesPath) :
    key = other := by
  have route := Route.ofTarget?_properties key
  rw [same, Route.ofTarget?_properties other] at route
  exact (written_injective (Route.properties.inj (Option.some.inj route))).symm

/-- Records and properties are never under one path, whosever they are. -/
theorem submissionPath_ne_propertiesPath (key other : SubmissionKey) :
    key.submissionPath ≠ other.propertiesPath := by
  intro same
  have route := Route.ofTarget?_submission key
  rw [same, Route.ofTarget?_properties other] at route
  cases route

end SubmissionKey

/-! ## Calls of a client -/

namespace Client

variable {client : Client} {address path : String} {route : PathKey → Route}
  {key : SubmissionKey}

/-- Whatever a client asks under a path arrives at a route whose handlers find one key in
it.  Nothing keeps a call from being sent but a token that is no header. -/
structure Reaches (client : Client) (address path : String) (route : PathKey → Route)
    (key : SubmissionKey) : Prop where
  sent : ∀ method body, (Network.request? address (client.call method path body)).isSome =
    client.header?.isSome
  routed : ∀ method body request,
    Network.request? address (client.call method path body) = some request →
      ∃ parts, Route.ofTarget? request.target = some (route parts) ∧ parts.toKey = .ok key

theorem reaches_of_knows (knows : client.Knows address)
    (plain : ∀ c ∈ (mount ++ path).toList, c ≠ '#')
    (matched : Route.ofTarget? (mount ++ path) = some (route key.written)) :
    client.Reaches address path route key := by
  constructor
  · intro method body
    rw [Network.request?_call knows plain, Option.isSome_map]
  · intro method body request sent
    rw [Network.request?_call knows plain, Option.map_eq_some_iff] at sent
    rcases sent with ⟨authorization, _, rfl⟩
    exact ⟨key.written, matched, PathKey.toKey_written key⟩

/-- The paths of a client and the routes of the service agree.  Wherever the service
listens, and with any number of slashes behind the base path, a call under the path of a
record reaches the handlers of records and one under the path of properties those of
properties, with the very key that the client wrote.  No two keys share a path, and no
record is under the path of properties. -/
theorem paths_agree_with_routes (address : String) (slashes : Nat) (token : Option String)
    (key : SubmissionKey) :
    let client := ofUrl (address ++ mount ++ String.ofList (List.replicate slashes '/')) token
    client.Reaches address key.submissionPath .submission key ∧
      client.Reaches address key.propertiesPath .properties key ∧
      ∀ other : SubmissionKey,
        (key.submissionPath = other.submissionPath ↔ key = other) ∧
        (key.propertiesPath = other.propertiesPath ↔ key = other) ∧
        key.submissionPath ≠ other.propertiesPath := by
  intro client
  have knows : client.Knows address := knows_ofUrl address slashes token
  refine ⟨?record, ?properties, ?apart⟩
  case record =>
    exact reaches_of_knows knows (Network.plain_submissionPath key)
      (Route.ofTarget?_submission key)
  case properties =>
    exact reaches_of_knows knows (Network.plain_propertiesPath key)
      (Route.ofTarget?_properties key)
  case apart =>
    intro other
    exact ⟨⟨SubmissionKey.submissionPath_injective, congrArg SubmissionKey.submissionPath⟩,
      ⟨SubmissionKey.propertiesPath_injective, congrArg SubmissionKey.propertiesPath⟩,
      SubmissionKey.submissionPath_ne_propertiesPath key other⟩

end Client

end Gradebook
