import Gradebook.Ledger.Basic
import Gradebook.Proofs.Json.Depth
import Gradebook.Submission

namespace Gradebook

/-!
# How deep payloads and records may be

What is sent of a submission is read member by member.  A member that is interpreted is
read by a reader of its own, every other one is checked before it is set aside, and either
of them refuses what is too deep.  So the texts of payloads and records bound the values
that they were written from.
-/

open Json (Bounds Origin once_eq_ok_iff)

/-- A member that has been read once was not too deep. -/
theorem Field.allows_of_read {α : Type} {reader : Json.Reader α} (bounds : Bounds reader)
    {origin : Origin} {name : String} {field next : Field α} {value : Json}
    (stored : field.read name (Json.nullable reader origin value.written) = .ok next) :
    origin.Allows value.depth := by
  cases field with
  | absent =>
      rcases Outcome.map_eq_ok.1 stored with ⟨result, accepted, _⟩
      exact bounds.nullable origin value result accepted
  | null | value a => cases stored

theorem Json.allows_of_once {α : Type} {reader : Json.Reader α} (bounds : Bounds reader)
    {origin : Origin} {name : String} {slot next : Option α} {value : Json}
    (stored : Json.once name slot (reader origin value.written) = .ok next) :
    origin.Allows value.depth := by
  rcases (once_eq_ok_iff.1 stored).2 with ⟨a, accepted, _⟩
  exact bounds origin value a accepted

/-! ## Payloads -/

theorem GradeEntry.bounds_reader : Bounds GradeEntry.reader := by
  apply Bounds.object
  intro inner state name value next stepped
  unfold readMember at stepped
  split_ifs at stepped <;> rcases Outcome.bind_eq_ok.1 stepped with ⟨_, stored, _⟩
  · exact Field.allows_of_read Json.bounds_numberReader stored
  · exact Field.allows_of_read Json.bounds_numberReader stored
  · exact Field.allows_of_read Json.bounds_numberReader stored
  · exact Field.allows_of_read Json.bounds_boolReader stored
  · exact Json.allows_of_check value inner stored

theorem CommentEntry.bounds_reader : Bounds CommentEntry.reader := by
  apply Bounds.object
  intro inner state name value next stepped
  unfold readMember at stepped
  split_ifs at stepped <;> rcases Outcome.bind_eq_ok.1 stepped with ⟨_, stored, _⟩
  · exact Field.allows_of_read Json.bounds_stringReader stored
  · exact Json.allows_of_check value inner stored

theorem NotebookGrades.bounds_reader : Bounds NotebookGrades.reader := by
  apply Bounds.object
  intro inner state name value next stepped
  unfold Fields.readMember at stepped
  split_ifs at stepped <;> rcases Outcome.bind_eq_ok.1 stepped with ⟨_, stored, _⟩
  · exact Json.allows_of_once GradeEntry.bounds_reader.dict stored
  · exact Json.allows_of_once CommentEntry.bounds_reader.dict stored
  · exact Json.allows_of_check value inner stored

theorem Ledger.bounds_reader : Bounds Ledger.reader := by
  intro origin value ledger accepted
  rcases Outcome.bind_eq_ok.1 accepted with ⟨notebooks, accepted, _⟩
  exact NotebookGrades.bounds_reader.dict origin value notebooks accepted

/-! ## Records -/

theorem Submission.bounds_reader : Bounds Submission.reader := by
  apply Bounds.object
  intro inner state name value next stepped
  unfold Fields.readMember at stepped
  split_ifs at stepped <;> rcases Outcome.bind_eq_ok.1 stepped with ⟨_, stored, _⟩
  · exact Json.allows_of_once Json.bounds_naturalReader stored
  · exact Json.allows_of_once (Json.bounds_nameReader ManualStatus.named none) stored
  · exact Json.allows_of_check value inner stored

end Gradebook
