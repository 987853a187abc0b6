namespace Gradebook

/-!
# Steps that may fail

When a sequence of steps succeeds, every one of them has succeeded.  These are
the only facts about `Except` that the development uses; a reader or a setter
is taken apart by them and not by unfolding its `do` block.
-/

namespace Outcome

variable {ε ε' α β : Type}

theorem bind_eq_ok {first : Except ε α} {next : α → Except ε β} {result : β} :
    (first >>= next) = .ok result ↔ ∃ value, first = .ok value ∧ next value = .ok result := by
  cases first with
  | error e =>
      constructor
      · intro impossible; cases impossible
      · rintro ⟨value, impossible, _⟩; cases impossible
  | ok value =>
      constructor
      · intro later; exact ⟨value, rfl, later⟩
      · rintro ⟨other, equal, later⟩
        cases equal
        exact later

theorem pure_eq_ok {value result : α} : (pure value : Except ε α) = .ok result ↔ value = result :=
  Except.ok.injEq value result ▸ Iff.rfl

theorem throw_ne_ok {error : ε} {result : α} : (throw error : Except ε α) ≠ .ok result := by
  intro impossible
  cases impossible

@[simp]
theorem ok_bind (value : α) (next : α → Except ε β) : (Except.ok value >>= next) = next value :=
  rfl

@[simp]
theorem error_bind (error : ε) (next : α → Except ε β) :
    ((Except.error error : Except ε α) >>= next) = .error error :=
  rfl

theorem map_eq_ok {change : α → β} {first : Except ε α} {result : β} :
    first.map change = .ok result ↔ ∃ value, first = .ok value ∧ change value = result := by
  cases first with
  | error e =>
      constructor
      · intro impossible; cases impossible
      · rintro ⟨value, impossible, _⟩; cases impossible
  | ok value =>
      constructor
      · intro equal; exact ⟨value, rfl, Except.ok.inj equal⟩
      · rintro ⟨other, same, equal⟩
        cases same
        exact congrArg Except.ok equal

theorem mapError_eq_ok {change : ε → ε'} {first : Except ε α} {result : α} :
    first.mapError change = .ok result ↔ first = .ok result := by
  cases first with
  | error e => constructor <;> intro impossible <;> cases impossible
  | ok value => constructor <;> intro equal <;> cases equal <;> rfl

/-- A step that only checks has one way of succeeding. -/
theorem exists_eq_ok_iff {check : Except ε Unit} : (∃ done, check = .ok done) ↔ check = .ok () := by
  constructor
  · rintro ⟨_, passed⟩
    exact passed
  · intro passed
    exact ⟨(), passed⟩

theorem exists_of_isOk {α : Type} {outcome : Except ε α} (finished : outcome.isOk = true) :
    ∃ a, outcome = .ok a := by
  cases outcome with
  | ok a => exact ⟨a, rfl⟩
  | error e => cases finished

theorem isOk_iff_exists {outcome : Except ε α} :
    outcome.isOk = true ↔ ∃ a, outcome = .ok a := by
  refine ⟨exists_of_isOk, ?_⟩
  rintro ⟨a, rfl⟩
  rfl

/-- A success is a success with its own value, whatever stands in for a missing one. -/
theorem eq_ok_getD {outcome : Except ε α} (finished : outcome.isOk = true) (other : α) :
    outcome = .ok (outcome.toOption.getD other) := by
  cases outcome with
  | ok a => rfl
  | error e => cases finished

theorem toOption_eq_some_iff {outcome : Except ε α} {result : α} :
    outcome.toOption = some result ↔ outcome = .ok result := by
  cases outcome with
  | ok value => simp only [Except.toOption, Option.some.injEq, Except.ok.injEq]
  | error failure => simp only [Except.toOption, reduceCtorEq]

end Outcome

end Gradebook
