import Gradebook.Proofs.Json.Durable
import Gradebook.Proofs.Ledger.Record
import Gradebook.Submission

namespace Gradebook

namespace Submission

/-!
# Submission records that are sent

A record is sent as a text whenever it is fetched or replaced.  Whoever reads it
finds the same id, whatever else happens to it, and a durable record is read as
it was.
-/

open Json (Origin spelled spelledMembers spellWritten written writtenMembers once_eq_ok_iff
  required_eq_ok_iff)

/-! ## The id -/

/-- Members that are read later leave an id alone that has been read. -/
theorem id_readMember {origin : Origin} {fields next : Fields} {name : String}
    {document : Json.Document} {id : UInt64} (read : fields.id = some id)
    (stepped : fields.readMember origin name document = .ok next) : next.id = some id := by
  unfold Fields.readMember at stepped
  split_ifs at stepped
  · obtain ⟨slot, stored, ⟨rfl⟩⟩ := Outcome.bind_eq_ok.1 stepped
    have unread := (once_eq_ok_iff.1 stored).1
    cases read.symm.trans unread
  · obtain ⟨slot, _, ⟨rfl⟩⟩ := Outcome.bind_eq_ok.1 stepped
    exact read
  · obtain ⟨_, _, ⟨rfl⟩⟩ := Outcome.bind_eq_ok.1 stepped
    exact read

/-- The id of a record survives its text. -/
theorem id_of_readText {sent received : Submission}
    (read : Json.readText reader sent.toJson.compress = .ok received) : received.id = sent.id := by
  rw [Json.readText_compress] at read
  simp only [toJson, written, writtenMembers, reader, Json.objectReader, Outcome.bind_eq_ok,
    Json.foldMembers, Json.Key.text, Number.reread_natural, Outcome.pure_eq_ok,
    required_eq_ok_iff, Except.ok.injEq, exists_eq_left'] at read
  obtain ⟨inner, _, fields, ⟨first, readId, second, readStatus, folded⟩, id, found, _, _, _, _,
    rfl⟩ := read
  have firstId : first.id = some sent.id := by
    cases readId
    rfl
  have kept : ∀ fields name document next, fields.id = some sent.id →
      Fields.readMember inner fields name document = .ok next → next.id = some sent.id :=
    fun _ _ _ _ => id_readMember
  have finalId : fields.id = some sent.id :=
    Json.foldMembers_induction kept (id_readMember firstId readStatus) folded
  exact Option.some.inj (found.symm.trans finalId)

/-! ## The status -/

theorem statusReader_name (origin : Origin) (status : ManualStatus) :
    ManualStatus.reader origin (.string (.ok status.name)) = .ok status := by
  cases status <;> cases origin <;> rfl

/-- Members that are read later leave a status alone that has been read. -/
theorem status_readMember {origin : Origin} {fields next : Fields} {name : String}
    {document : Json.Document} {status : ManualStatus} (read : fields.manualStatus = some status)
    (stepped : fields.readMember origin name document = .ok next) :
    next.manualStatus = some status := by
  unfold Fields.readMember at stepped
  split_ifs at stepped
  · rcases Outcome.bind_eq_ok.1 stepped with ⟨slot, _, ⟨rfl⟩⟩
    exact read
  · rcases Outcome.bind_eq_ok.1 stepped with ⟨slot, stored, ⟨rfl⟩⟩
    have unread := (once_eq_ok_iff.1 stored).1
    cases read.symm.trans unread
  · rcases Outcome.bind_eq_ok.1 stepped with ⟨_, _, ⟨rfl⟩⟩
    exact read

/-- The status of a record survives its text. -/
theorem status_of_readText {sent received : Submission}
    (read : Json.readText reader sent.toJson.compress = .ok received) :
    received.manualStatus = sent.manualStatus := by
  rw [Json.readText_compress] at read
  simp only [toJson, written, writtenMembers, reader, Json.objectReader, Outcome.bind_eq_ok,
    Json.foldMembers, Json.Key.text, Outcome.pure_eq_ok, required_eq_ok_iff, Except.ok.injEq,
    exists_eq_left'] at read
  rcases read with ⟨inner, _, fields, ⟨first, _, second, readStatus, folded⟩, _, _, status, found,
    _, _, rfl⟩
  have readSecond : second.manualStatus = some sent.manualStatus := by
    simp only [Fields.readMember, String.reduceEq, if_false, if_true, statusReader_name,
      Outcome.bind_eq_ok] at readStatus
    rcases readStatus with ⟨slot, stored, ⟨rfl⟩⟩
    rcases (once_eq_ok_iff.1 stored).2 with ⟨_, ⟨⟩, rfl⟩
    rfl
  have kept : ∀ fields name document next, fields.manualStatus = some sent.manualStatus →
      Fields.readMember inner fields name document = .ok next →
        next.manualStatus = some sent.manualStatus :=
    fun _ _ _ _ => status_readMember
  have final : fields.manualStatus = some sent.manualStatus :=
    Json.foldMembers_induction kept readSecond folded
  exact Option.some.inj (found.symm.trans final)

/-! ## Durable records -/

/-- Members that are not interpreted only have to be of an allowed depth. -/
theorem foldMembers_others {origin : Origin} {spell : String → List Char} {fields : Fields}
    {members : List (String × Json)} (others : ∀ member ∈ members, member.1 ∉ submissionFields)
    (allows : origin.Allows (Json.depthMembers members)) :
    Json.foldMembers (Fields.readMember origin) .closed fields (spelledMembers spell members) =
      .ok fields := by
  induction members with
  | nil => rfl
  | cons member rest inductionHypothesis =>
      obtain ⟨name, value⟩ := member
      have other := others (name, value) List.mem_cons_self
      simp only [submissionFields, List.mem_cons, List.not_mem_nil, or_false, not_or] at other
      simp only [Json.depthMembers] at allows
      have checked : Json.check origin (value.spelled spell) = .ok () :=
        Json.check_spelled value origin (allows.mono (Nat.le_max_left _ _))
      have stepped : fields.readMember origin name (value.spelled spell) = .ok fields := by
        simp only [Fields.readMember, other, if_false, checked, Outcome.ok_bind]
        rfl
      simp only [spelledMembers, Json.foldMembers, Json.Key.text, Outcome.ok_bind, stepped]
      exact inductionHypothesis (fun member later => others member (List.mem_cons_of_mem _ later))
        (allows.mono (Nat.le_max_right _ _))

/-- What is carried along is kept from behind the interpreted members. -/
theorem ofMembers_toJson {submission : Submission} {spell : String → List Char}
    (canonical : submission.extra.Every Json.Canonical)
    (plain : submission.extra.Every Json.Plain) (id status : Json) :
    Extra.ofMembers (spelledMembers spell (("id", id) :: ("manual_status", status) ::
      submission.extra.members.entries)) = .ok submission.extra := by
  rw [Extra.ofMembers, Extra.keepMore_cons_of_reserved (by decide),
    Extra.keepMore_cons_of_reserved (by decide)]
  exact (Extra.ofMembers_entries_iff spell canonical fun _ _ => rfl).2 plain

/-- A durable record is read from its text as it was. -/
theorem readText_toJson {submission : Submission}
    (canonical : submission.extra.Every Json.Canonical) (durable : submission.toJson.Durable) :
    Json.readText reader submission.toJson.compress = .ok submission := by
  obtain ⟨steady, plain, shallow⟩ := durable
  have shallowExtra : Json.depthMembers submission.extra.members.entries + 1 ≤
      Json.maximalDepth := by
    simpa only [toJson, Json.depth, Json.depthMembers, Nat.zero_max] using shallow
  have plainExtra : submission.extra.Every Json.Plain := by
    simp only [toJson, Json.Plain, Json.PlainMembers, Json.plainMembers_iff] at plain
    intro name value found
    exact plain.2.2.2 (name, value) (Dict.get?_eq_some_iff.1 found)
  have allowed : (Origin.text Json.maximalDepth).Allows
      (Json.depthMembers submission.extra.members.entries + 1) := shallowExtra
  obtain ⟨inner, entered, allows⟩ := allowed.enter
  have unreserved : ∀ member ∈ submission.extra.members.entries,
      member.1 ∉ submissionFields := fun member listed =>
    submission.extra.unreserved member.1 (List.mem_map_of_mem listed)
  have kept := @ofMembers_toJson submission spellWritten canonical plainExtra
    (.number (.natural submission.id)) (.string submission.manualStatus.name)
  have readId : Fields.readMember inner {} "id" (.number (some (.natural submission.id))) =
      .ok { id := some submission.id } := rfl
  have readStatus : Fields.readMember inner { id := some submission.id } "manual_status"
      (.string (.ok submission.manualStatus.name)) =
        .ok ⟨some submission.id, some submission.manualStatus⟩ := by
    simp only [Fields.readMember, String.reduceEq, if_true, if_false, statusReader_name,
      Json.once, Except.map, Outcome.ok_bind]
    rfl
  rw [Json.readText_compress, Json.written_of_steady _ steady]
  simp only [toJson, spelled, spelledMembers] at kept ⊢
  simp only [reader, Json.objectReader, entered, Json.foldMembers, Json.Key.text, readId,
    readStatus, foldMembers_others unreserved allows, kept, Json.required, Outcome.ok_bind]
  rfl

end Submission

end Gradebook
