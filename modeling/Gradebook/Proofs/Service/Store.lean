import Gradebook.Proofs.Ledger.Record
import Gradebook.Service.Store
import Mathlib.Tactic.SplitIfs

namespace Gradebook

namespace Store

/-!
# Changing one submission of a store

A submission is changed under its key and nowhere else, and changes of the same
submission are one change.
-/

variable {store : Store} {key other : SubmissionKey} {stored : StoredSubmission}

theorem ext {left right : Store} (same : left.entries = right.entries) : left = right := by
  cases left
  cases right
  cases same
  rfl

theorem get?_modify (store : Store) (key other : SubmissionKey)
    (change : StoredSubmission → StoredSubmission) :
    (store.modify key change).get? other =
      if other = key then (store.get? other).map change else store.get? other := by
  simp only [get?, modify]
  generalize store.entries = entries
  induction entries with
  | nil => simp only [List.map_nil, List.lookup_nil, Option.map_none, ite_self]
  | cons entry rest inductionHypothesis =>
      obtain ⟨name, value⟩ := entry
      simp only [List.map_cons, List.lookup_cons]
      by_cases found : other = name
      · subst found
        simp only [beq_self_eq_true]
        split_ifs
        · rfl
        · rfl
      · simp only [beq_false_of_ne found]
        exact inductionHypothesis

theorem get?_modify_of_ne (change : StoredSubmission → StoredSubmission) (differs : other ≠ key) :
    (store.modify key change).get? other = store.get? other := by
  rw [get?_modify, if_neg differs]

theorem modify_modify (store : Store) (key : SubmissionKey)
    (first second : StoredSubmission → StoredSubmission) :
    (store.modify key first).modify key second =
      store.modify key fun stored => second (first stored) := by
  apply ext
  simp only [modify, List.map_map]
  apply List.map_congr_left
  rintro ⟨name, value⟩ _
  simp only [Function.comp]
  split_ifs
  · rfl
  · rfl

theorem setProperties?_of_get? (found : store.get? key = some stored) (properties : Json) :
    store.setProperties? key properties =
      some (store.modify key fun stored => { stored with properties }) := by
  rw [setProperties?, found]

theorem setSubmission?_of_get? (found : store.get? key = some stored) (submission : Submission) :
    store.setSubmission? key submission =
      some (store.modify key fun stored => { stored with submission }) := by
  rw [setSubmission?, found]

theorem get?_insert (store : Store) (stored : StoredSubmission) (other : SubmissionKey) :
    (store.insert stored).get? other =
      if other = stored.key then some stored else store.get? other := by
  change (putEntry stored.key stored store.entries).lookup other =
    if other = stored.key then some stored else store.entries.lookup other
  generalize store.entries = entries
  induction entries with
  | nil =>
      rw [putEntry, List.lookup_cons, List.lookup_nil]
      by_cases same : other = stored.key
      · rw [if_pos same, beq_iff_eq.2 same]
      · rw [if_neg same, beq_false_of_ne same]
  | cons entry rest inductionHypothesis =>
      obtain ⟨name, old⟩ := entry
      by_cases present : name = stored.key
      · rw [putEntry, if_pos present, present, List.lookup_cons, List.lookup_cons]
        by_cases same : other = stored.key
        · rw [if_pos same, beq_iff_eq.2 same]
        · rw [if_neg same, beq_false_of_ne same]
      · rw [putEntry, if_neg present, List.lookup_cons, List.lookup_cons, inductionHypothesis]
        by_cases same : other = name
        · have differs : other ≠ stored.key := fun impossible =>
            present (same.symm.trans impossible)
          simp only [beq_iff_eq.2 same, if_neg differs]
        · simp only [beq_false_of_ne same]

/-- A store as a service holds it: every submission stands under its own key, and
what its record carries along is canonical, like all that was read. -/
structure Sound (store : Store) : Prop where
  keyed : ∀ key stored, store.get? key = some stored → stored.key = key
  canonical : ∀ key stored, store.get? key = some stored →
    stored.submission.extra.Every Json.Canonical

theorem sound_empty : empty.Sound where
  keyed key stored impossible := by cases impossible
  canonical key stored impossible := by cases impossible

theorem Sound.insert (sound : store.Sound)
    (canonical : stored.submission.extra.Every Json.Canonical) : (store.insert stored).Sound where
  keyed key other found := by
    rw [get?_insert] at found
    split_ifs at found with same
    · cases found
      exact same.symm
    · exact sound.keyed key other found
  canonical key other found := by
    rw [get?_insert] at found
    split_ifs at found
    · cases found
      exact canonical
    · exact sound.canonical key other found

/-- The store of a list of submissions is sound. -/
theorem sound_ofList {submissions : List StoredSubmission}
    (canonical : ∀ stored ∈ submissions, stored.submission.extra.Every Json.Canonical) :
    (ofList submissions).Sound := by
  suffices collected : ∀ store : Store, store.Sound → (submissions.foldl Store.insert store).Sound from
    collected empty sound_empty
  induction submissions with
  | nil => exact fun store sound => sound
  | cons first rest inductionHypothesis =>
      intro store sound
      have inserted := sound.insert (canonical first List.mem_cons_self)
      exact inductionHypothesis (fun stored later => canonical stored (List.mem_cons_of_mem _ later))
        _ inserted

/-- Properties of a submission make no difference, nor does a canonical record with
the same id. -/
theorem Sound.modify (sound : store.Sound) {change : StoredSubmission → StoredSubmission}
    (changed : ∀ stored, store.get? key = some stored → (change stored).key = key ∧
      (change stored).submission.extra.Every Json.Canonical) : (store.modify key change).Sound where
  keyed other stored found := by
    rw [get?_modify] at found
    split_ifs at found with same
    · obtain ⟨old, before, rfl⟩ := Option.map_eq_some_iff.1 found
      exact (changed old (same ▸ before)).1.trans same.symm
    · exact sound.keyed other stored found
  canonical other stored found := by
    rw [get?_modify] at found
    split_ifs at found with same
    · obtain ⟨old, before, rfl⟩ := Option.map_eq_some_iff.1 found
      exact (changed old (same ▸ before)).2
    · exact sound.canonical other stored found

end Store

end Gradebook
