import Gradebook.Proofs.Json.Durable
import Gradebook.Proofs.Ledger.Payload

namespace Gradebook

/-!
# Ledgers of durable payloads

A durable payload holds nothing that reading would replace.  So the ledger that is read
from its text writes it again, and a ledger that writes a durable payload is read from it.
-/

/-- What stands in a plain value is plain. -/
theorem Json.Plain.member {value content : Json} {name : String} (plain : value.Plain)
    (found : value.member? name = some content) : content.Plain := by
  cases value with
  | object members =>
      simp only [Json.Plain] at plain
      exact Json.plainMembers_iff.1 plain.2 (name, content) (Dict.mem_of_lookup found)
  | null | bool b | number n | string s | array items => cases found

namespace Ledger

variable {ledger : Ledger} {payload value : Json}

/-- What the members of a value inherit from it, its uninterpreted values do. -/
theorem inherited_of_uninterpreted {property : Json → Prop}
    (inherited : ∀ {value content : Json} {name : String}, property value →
      value.member? name = some content → property content)
    (holds : property payload) (uninterpreted : Uninterpreted payload value) : property value := by
  rcases uninterpreted with ⟨notebook, object, found, uninterpreted⟩
  have inner := inherited holds found
  cases uninterpreted with
  | beside member _ => exact inherited inner member
  | grade dictionary found member _ =>
      exact inherited (inherited (inherited inner dictionary) found) member
  | comment dictionary found member _ =>
      exact inherited (inherited (inherited inner dictionary) found) member

theorem plain_of_uninterpreted (plain : payload.Plain)
    (uninterpreted : Uninterpreted payload value) : value.Plain :=
  inherited_of_uninterpreted Json.Plain.member plain uninterpreted

/-- What a ledger carries along stands in its payload. -/
theorem uninterpreted_of_carries (carried : ledger.Carries value) :
    Uninterpreted ledger.toJson value := by
  rcases carried with ⟨notebook, grades, held, carried⟩
  refine ⟨notebook, grades.toJson, ?_, ?_⟩
  · change (ledger.notebooks.map NotebookGrades.toJson).get? notebook = some grades.toJson
    rw [Dict.get?_map, held, Option.map_some]
  cases carried with
  | @beside name member =>
      have free : name ∉ notebookFields := grades.extra.unreserved name (Dict.mem_keys_of_get? member)
      exact .beside ((grades.get?_toDict_of_not_mem free).trans member) free
  | @grade cell name entry found member =>
      have free : name ∉ gradeFields := entry.extra.unreserved name (Dict.mem_keys_of_get? member)
      have written : (grades.grades.map GradeEntry.toJson).get? cell = some entry.toJson := by
        rw [Dict.get?_map, found, Option.map_some]
      have shown : entry.toDict.get? name = some value := by
        rw [entry.get?_toDict, if_neg free, member]
      exact .grade grades.get?_grades written shown free
  | @comment cell name entry found member =>
      have free : name ∉ commentFields := entry.extra.unreserved name (Dict.mem_keys_of_get? member)
      have written : (grades.comments.map CommentEntry.toJson).get? cell = some entry.toJson := by
        rw [Dict.get?_map, found, Option.map_some]
      have shown : entry.toDict.get? name = some value := by
        rw [entry.get?_toDict, if_neg free, member]
      exact .comment grades.get?_comments written shown free

/-- A durable payload is written again by the ledger of its text. -/
theorem toJson_of_ofText (canonical : payload.Canonical) (durable : payload.Durable)
    (read : ofText payload.compress = .ok ledger) : ledger.toJson = payload := by
  rw [ofText, Json.readText_compress, Json.written_of_steady payload durable.steady] at read
  have allowed : (Json.Origin.text Json.maximalDepth).Allows payload.depth := durable.shallow
  exact (shape.toJson_eq_iff allowed canonical read).2 fun value uninterpreted =>
    plain_of_uninterpreted durable.plain uninterpreted

/-- A ledger that can come up is read from its own payload, if that is plain. -/
theorem ofJson_toJson (reachable : ledger.Reachable) (plain : ledger.toJson.Plain) :
    ofJson ledger.toJson = .ok ledger := by
  have unbounded : Json.Origin.value.Allows ledger.toJson.depth := trivial
  rw [ofJson, Json.readValue, Json.toDocument_eq_spelled]
  exact (shape.read_toJson_iff String.toList unbounded fun value carried =>
    reachable.canonical carried).2 fun value carried =>
      plain_of_uninterpreted plain (uninterpreted_of_carries carried)

end Ledger

end Gradebook
