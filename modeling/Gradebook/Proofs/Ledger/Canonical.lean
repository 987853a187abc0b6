import Gradebook.Proofs.Ledger.Operations

namespace Gradebook

/-!
# Payloads of ledgers are canonical

A record is written as a dictionary, so its members are in order at once.  What
stands under them is canonical because the interpreted members are scalars and
because everything that a reachable ledger carries along is canonical.
-/

namespace Json

theorem canonical_ofDict {dict : Dict Json}
    (canonical : ∀ name value, dict.get? name = some value → value.Canonical) :
    (ofDict dict).Canonical := by
  simp only [ofDict, Canonical]
  refine ⟨dict.ascending, canonicalMembers_iff.2 ?_⟩
  intro member listed
  exact canonical member.1 member.2 (Dict.get?_eq_some_iff.2 listed)

theorem canonical_ofDict_map {α : Type} {dict : Dict α} {toJson : α → Json}
    (canonical : ∀ name a, dict.get? name = some a → (toJson a).Canonical) :
    (ofDict (dict.map toJson)).Canonical := by
  apply canonical_ofDict
  intro name value found
  rw [Dict.get?_map, Option.map_eq_some_iff] at found
  obtain ⟨a, found, rfl⟩ := found
  exact canonical name a found

/-- A record is written canonically if its fields show canonical values only. -/
theorem Record.canonical_toDict {α : Type} {fields : List String} (record : Record α fields)
    (scalar : ∀ name value, record.Fits name value → value.Canonical) {a : α}
    (every : (record.extra a).Every Canonical) : (ofDict (record.toDict a)).Canonical := by
  apply canonical_ofDict
  intro name value found
  rw [record.get?_toDict] at found
  split_ifs at found
  · exact scalar name value (record.fits_of_member? found)
  · exact every name value found

end Json

theorem GradeEntry.canonical_toJson {entry : GradeEntry}
    (every : entry.extra.Every Json.Canonical) : entry.toJson.Canonical := by
  apply record.canonical_toDict _ every
  rintro name value (rfl | fits)
  · simp only [Json.Canonical]
  · split_ifs at fits
    · obtain ⟨b, rfl⟩ := fits
      simp only [Json.Canonical]
    · obtain ⟨n, rfl⟩ := fits
      simp only [Json.Canonical]

theorem CommentEntry.canonical_toJson {entry : CommentEntry}
    (every : entry.extra.Every Json.Canonical) : entry.toJson.Canonical := by
  apply record.canonical_toDict _ every
  rintro name value (rfl | ⟨s, rfl⟩)
  · simp only [Json.Canonical]
  · simp only [Json.Canonical]

theorem NotebookGrades.canonical_toJson {notebook : NotebookGrades}
    (canonical : ∀ value, notebook.Carries value → value.Canonical) :
    notebook.toJson.Canonical := by
  obtain ⟨inGrades, inComments, beside⟩ := forall_carries_iff.1 canonical
  apply Json.canonical_ofDict
  intro name value found
  rw [get?_toDict] at found
  split_ifs at found
  · cases found
    exact Json.canonical_ofDict_map fun cell entry found =>
      CommentEntry.canonical_toJson (inComments cell entry found)
  · cases found
    exact Json.canonical_ofDict_map fun cell entry found =>
      GradeEntry.canonical_toJson (inGrades cell entry found)
  · exact beside name value found

/-- The payload of a ledger that can come up is canonical. -/
theorem Ledger.Reachable.canonical_toJson {ledger : Ledger} (reachable : Reachable ledger) :
    ledger.toJson.Canonical :=
  Json.canonical_ofDict_map fun notebook _ found =>
    NotebookGrades.canonical_toJson fun _ carried =>
      reachable.canonical ⟨notebook, _, found, carried⟩

end Gradebook
