import Gradebook.Proofs.Ledger.Operations

namespace Gradebook

namespace Ledger

/-!
# Reading and writing the payload

A payload holds members that grading interprets and others that it carries along.
The interpreted ones always survive: absence and null are kept apart, and numbers
keep their kind.  The others survive with one exception, which is known exactly:
an object that begins with the key of an embedded text is replaced by the value
that the text holds, or refused.

`toJson_eq_and_ofJson_eq` states both directions with this condition.  It is
necessary as well as sufficient, so writing and reading are mutually inverse on
the payloads and ledgers without such objects and on no others.
-/

/-- A value in a payload that grading does not interpret. -/
def Uninterpreted (payload value : Json) : Prop :=
  ∃ notebook object, payload.member? notebook = some object ∧
    NotebookGrades.Uninterpreted object value

theorem reader_eq_ok_iff {origin : Json.Origin} {document : Json.Document} {ledger : Ledger} :
    reader origin document = .ok ledger ↔
      Json.dictReader NotebookGrades.reader origin document = .ok ledger.notebooks := by
  simp only [reader, Outcome.bind_eq_ok, Outcome.pure_eq_ok]
  constructor
  · rintro ⟨notebooks, read, rfl⟩
    exact read
  · intro read
    exact ⟨ledger.notebooks, read, rfl⟩

/-- Ledgers have a shape: what they carry along has to be plain. -/
theorem shape : Json.Shape toJson reader
    (fun payload => ∀ value, Uninterpreted payload value → value.Plain)
    (fun ledger => ∀ value, ledger.Carries value → value.Canonical)
    (fun ledger => ∀ value, ledger.Carries value → value.Plain) where
  toJson_eq_iff := by
    intro origin spell payload ledger allows canonical accepted
    have same := NotebookGrades.shape.dict.toJson_eq_iff allows canonical
      (reader_eq_ok_iff.1 accepted)
    rw [toJson, same]
    constructor
    · rintro plain value ⟨notebook, object, found, uninterpreted⟩
      exact plain notebook object found value uninterpreted
    · intro plain notebook object found value uninterpreted
      exact plain value ⟨notebook, object, found, uninterpreted⟩
  read_toJson_iff := by
    intro spell origin ledger allows canonical
    have same := NotebookGrades.shape.dict.read_toJson_iff spell allows
      fun notebook grades found value carried => canonical value ⟨notebook, grades, found, carried⟩
    rw [reader_eq_ok_iff, toJson, same]
    constructor
    · rintro plain value ⟨notebook, grades, found, carried⟩
      exact plain notebook grades found value carried
    · intro plain notebook grades found value carried
      exact plain value ⟨notebook, grades, found, carried⟩

/-- Writing what was read gives the payload back just when its uninterpreted
values are plain, and reading what was written gives the ledger back just when
the values that it carries along are. -/
theorem toJson_eq_and_ofJson_eq (payload : Json) (ledger : Ledger) :
    (payload.Canonical → ofJson payload = .ok ledger →
      (ledger.toJson = payload ↔ ∀ value, Uninterpreted payload value → value.Plain)) ∧
    (Reachable ledger →
      (ofJson ledger.toJson = .ok ledger ↔ ∀ value, ledger.Carries value → value.Plain)) := by
  constructor
  · intro canonical read
    have unbounded : Json.Origin.value.Allows payload.depth := trivial
    rw [ofJson, Json.readValue, Json.toDocument_eq_spelled] at read
    exact shape.toJson_eq_iff unbounded canonical read
  · intro reachable
    have unbounded : Json.Origin.value.Allows ledger.toJson.depth := trivial
    rw [ofJson, Json.readValue, Json.toDocument_eq_spelled]
    exact shape.read_toJson_iff String.toList unbounded fun value carried => reachable.canonical carried

/-- A value that stands for an embedded text is not given back.  From a text such a
value can come with another member in front of it, and then the ledger cannot be
read again at all. -/
theorem embedded_value_is_lost :
    (∃ payload ledger, payload.Canonical ∧ ofJson payload = .ok ledger ∧
      ledger.toJson ≠ payload) ∧
    ∃ ledger, Reachable ledger ∧ ofJson ledger.toJson ≠ .ok ledger ∧
      ∃ value, ledger.Carries value ∧ ¬ value.Plain := by
  constructor
  · let embedding := Json.object [(Json.embeddingKey, .string "1")]
    let entry := Json.object [("x", embedding)]
    let object := Json.object [("comments_dict", .object []),
      ("grades_dict", .object [("c", entry)])]
    let payload := Json.object [("h", object)]
    have canonical : payload.Canonical := by
      simp only [payload, object, entry, embedding, Json.Canonical, Json.CanonicalMembers,
        List.map_cons, List.map_nil, and_true]
      decide
    have read : (ofJson payload).isOk = true := by decide +kernel
    obtain ⟨ledger, read⟩ := Outcome.exists_of_isOk read
    have member : entry.member? "x" = some embedding := rfl
    have found : (Json.object [("c", entry)]).member? "c" = some entry := rfl
    have other : "x" ∉ gradeFields := by decide
    have uninterpreted : Uninterpreted payload embedding :=
      ⟨"h", object, rfl, .grade rfl found member other⟩
    refine ⟨payload, ledger, canonical, read, fun same => ?_⟩
    have plain := ((toJson_eq_and_ofJson_eq payload ledger).1 canonical read).1 same _ uninterpreted
    simp only [embedding, Json.Plain] at plain
    exact plain.1 rfl
  · let text := (Json.object [("h", .object [("comments_dict", .object []), ("grades_dict", .object
      [("c", .object [("x", .object [("a", .null), (Json.embeddingKey, .string "1")])])])])]).compress
    have read : (ofText text).isOk = true := by decide +kernel
    have refused : ((ofText text).toOption.map fun ledger => (ofJson ledger.toJson).isOk) =
        some false := by decide +kernel
    obtain ⟨ledger, read⟩ := Outcome.exists_of_isOk read
    have reachable : Reachable ledger := .ofText read
    have lost : ofJson ledger.toJson ≠ .ok ledger := by
      intro kept
      simp only [read, Except.toOption, Option.map_some, kept, Except.isOk, Except.toBool,
        Option.some.injEq, reduceCtorEq] at refused
    refine ⟨ledger, reachable, lost, ?_⟩
    by_contra plain
    simp only [not_exists, not_and, not_not] at plain
    exact lost (((toJson_eq_and_ofJson_eq .null ledger).2 reachable).2 plain)

end Ledger

end Gradebook
