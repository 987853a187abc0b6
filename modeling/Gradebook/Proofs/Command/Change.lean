import Gradebook.Command.Run
import Gradebook.Proofs.Ledger.Leaf

namespace Gradebook

/-!
# What a change of a grade does

A change gives a score, extra credit and a comment, and each of them may be left out.  A
value that is given goes through one setter, after a check or without one, and one that is
left out does nothing.  `Command.sets_applyChange` takes a change that was made apart into
these three settings.  What settings do to ledgers, records and payloads is then known of
changes too.
-/

open Json (Leaf Puts Apart)

namespace GradeChange

variable {α : Type} {change : GradeChange} {given : Option α} {setting : α → Ledger.Setting}
  {ledger next : Ledger}

/-! ## Settings that may be left out -/

/-- A value has been set in the cell of a change, if it is given. -/
def Sets (change : GradeChange) (given : Option α) (setting : α → Ledger.Setting)
    (ledger next : Ledger) : Prop :=
  match given with
  | none => next = ledger
  | some value => (setting value).apply ledger change.notebook change.cell = .ok next

theorem Sets.reachable (sets : change.Sets given setting ledger next)
    (reachable : ledger.Reachable) : next.Reachable := by
  cases given with
  | none =>
      cases sets
      exact reachable
  | some value => exact .set reachable sets

/-- The record of the cell, when a value may have been set in it. -/
theorem Sets.record {record : Ledger.Record} (sets : change.Sets given setting ledger next)
    (taken : ledger.record change.notebook change.cell = .ok record) :
    next.record change.notebook change.cell =
      .ok (given.elim record fun value => (setting value).write record) := by
  cases given with
  | none =>
      cases sets
      exact taken
  | some value => exact Ledger.Setting.record_of_apply sets taken

/-- Where every value is put into a leaf, one that is given is. -/
theorem Sets.puts {Fine : α → Prop} {leaf : α → Leaf}
    (sets : change.Sets given setting ledger next)
    (puts : ∀ value, (setting value).apply ledger change.notebook change.cell = .ok next →
      Fine value ∧ Puts [leaf value] ledger.toJson next.toJson) :
    (∀ value, given = some value → Fine value) ∧
      Puts (given.map leaf).toList ledger.toJson next.toJson := by
  cases given with
  | none =>
      cases sets
      exact ⟨nofun, Json.puts_nil _⟩
  | some value =>
      rcases puts value sets with ⟨fine, put⟩
      exact ⟨fun _ same => Option.some.inj same ▸ fine, put⟩

/-! ## The leaves of a change -/

/-- All that is given, each in its place in the payload. -/
def leaves (change : GradeChange) : List Leaf :=
  (change.score.map (Ledger.scoreLeaf change.notebook change.cell)).toList ++
    ((change.extraCredit.map (Ledger.extraCreditLeaf change.notebook change.cell)).toList ++
      (change.comment.map (Ledger.commentLeaf change.notebook change.cell)).toList)

/-- Whether all numbers that are given can stand in a payload. -/
structure Finite (change : GradeChange) : Prop where
  score : ∀ score, change.score = some score → score.isFinite = true
  extraCredit : ∀ amount, change.extraCredit = some amount → amount.isFinite = true

/-- The leaves of a change have different places. -/
theorem apart_leaves (change : GradeChange) :
    change.leaves.Pairwise fun leaf later => Apart later.path leaf.path := by
  have credit : ∀ score amount, Apart
      (Ledger.extraCreditLeaf change.notebook change.cell amount).path
      (Ledger.scoreLeaf change.notebook change.cell score).path := by
    intro score amount
    apply Json.apart_of_length_eq
    · rfl
    · simp [Ledger.extraCreditLeaf, Ledger.scoreLeaf, Ledger.gradePath]
  have comment : ∀ field text, Apart
      (Ledger.commentLeaf change.notebook change.cell text).path
      (Ledger.gradePath change.notebook change.cell field) := by
    intro field text
    apply Json.apart_of_length_eq
    · rfl
    · simp [Ledger.commentLeaf, Ledger.commentPath, Ledger.gradePath]
  unfold leaves
  cases change.score <;> cases change.extraCredit <;> cases change.comment <;>
    simp only [Option.map_none, Option.map_some, Option.toList_none, Option.toList_some,
      List.nil_append, List.append_nil, List.cons_append, List.pairwise_cons, List.mem_cons,
      List.not_mem_nil, or_false, forall_eq_or_imp, forall_eq, List.Pairwise.nil, and_true,
      false_implies, implies_true]
  · exact comment _ _
  · exact comment _ _
  · exact credit _ _
  · exact ⟨⟨credit _ _, comment _ _⟩, comment _ _⟩

end GradeChange

/-! ## The parts of a change -/

namespace Command

variable {change : GradeChange} {ledger next : Ledger}

/-- A score is set, whether there is a budget for it or not. -/
theorem sets_changeScore (changed : changeScore change ledger = .ok next) :
    change.Sets change.score .manualScore ledger next := by
  unfold changeScore at changed
  cases given : change.score with
  | none =>
      simp only [given] at changed
      exact (Except.ok.inj changed).symm
  | some score =>
      simp only [given] at changed
      rcases Outcome.bind_eq_ok.1 changed with ⟨recorded, _, changed⟩
      cases budget : (change.maxPoints <|> recorded) with
      | some points =>
          rw [budget] at changed
          exact (Ledger.setManualScoreChecked_eq_ok_iff.1 changed).2
      | none =>
          rw [budget] at changed
          exact changed

theorem sets_changeExtraCredit (changed : changeExtraCredit change ledger = .ok next) :
    change.Sets change.extraCredit .extraCredit ledger next := by
  unfold changeExtraCredit at changed
  cases given : change.extraCredit with
  | none =>
      simp only [given] at changed
      exact (Except.ok.inj changed).symm
  | some amount =>
      simp only [given] at changed
      exact (Ledger.setExtraCreditChecked_eq_ok_iff.1 changed).2

theorem sets_changeComment (changed : changeComment change ledger = .ok next) :
    change.Sets change.comment .comment ledger next := by
  unfold changeComment at changed
  cases given : change.comment with
  | none =>
      simp only [given] at changed
      exact (Except.ok.inj changed).symm
  | some comment =>
      simp only [given] at changed
      exact changed

/-- A change that is made sets what is given, one value after the other. -/
theorem sets_applyChange (applied : applyChange change ledger = .ok next) :
    ∃ scored credited, change.Sets change.score .manualScore ledger scored ∧
      change.Sets change.extraCredit .extraCredit scored credited ∧
      change.Sets change.comment .comment credited next := by
  rcases Outcome.bind_eq_ok.1 applied with ⟨scored, changed, applied⟩
  rcases Outcome.bind_eq_ok.1 applied with ⟨credited, creditChanged, commentChanged⟩
  exact ⟨scored, credited, sets_changeScore changed, sets_changeExtraCredit creditChanged,
    sets_changeComment commentChanged⟩

/-- A change that is made puts all that is given into the payload. -/
theorem puts_applyChange (applied : applyChange change ledger = .ok next) :
    change.Finite ∧ Puts change.leaves ledger.toJson next.toJson := by
  rcases sets_applyChange applied with ⟨scored, credited, score, extraCredit, comment⟩
  rcases score.puts fun _ => Ledger.puts_setManualScore with ⟨finite, first⟩
  rcases extraCredit.puts fun _ => Ledger.puts_setExtraCredit with ⟨finiteCredit, second⟩
  rcases comment.puts fun _ set => ⟨trivial, Ledger.puts_setComment set⟩ with ⟨_, third⟩
  exact ⟨⟨finite, finiteCredit⟩, first.append (second.append third)⟩

/-- What a change makes of a ledger that can come up is such a ledger. -/
theorem reachable_of_applyChange (reachable : ledger.Reachable)
    (applied : applyChange change ledger = .ok next) : next.Reachable := by
  rcases sets_applyChange applied with ⟨scored, credited, score, extraCredit, comment⟩
  exact comment.reachable (extraCredit.reachable (score.reachable reachable))

end Command

end Gradebook
