import Gradebook.Ledger.Score
import Gradebook.Proofs.Doubles

namespace Gradebook

/-!
# Scores within a budget

A score is checked by asking whether it lies below zero or above its budget.  For
doubles that is not the same as asking whether it lies between them: a double that
is not a number lies neither below nor above anything.  The score itself is finite,
so all depends on the budget.

`Score.check_eq_ok_iff` says what passes, and `Score.le_iff` what is missing: with
a budget that is a number, what passes is at most the budget, and with one that is
none it never is.  A budget that was recorded in a payload is always a number.
-/

open Float.Model (UnpackedFloat Format)
open Float.Model.UnpackedFloat (unpackExponent unpackMantissa unpackExponent_packComponents
  unpackMantissa_packComponents)

namespace Score

/-! ## The order of doubles -/

/-- Comparing the other way round turns the answer round. -/
theorem compare_swap (left right : UnpackedFloat) :
    right.compare left = (left.compare right).map Ordering.swap := by
  have magnitudes : ∀ (m n : Nat) (e f : Int),
      (compare f e).then (compare n m) = ((compare e f).then (compare m n)).swap := by
    intro m n e f
    rw [Ordering.swap_then, ← Int.compare_swap, ← Nat.compare_swap]
  cases left with
  | notANumber => cases right <;> rfl
  | infinity sign =>
      cases right with
      | notANumber => cases sign <;> rfl
      | infinity other => cases sign <;> cases other <;> rfl
      | zero other => cases sign <;> rfl
      | finite other => cases sign <;> rfl
  | zero sign =>
      cases right with
      | notANumber => rfl
      | infinity other => cases other <;> rfl
      | zero other => rfl
      | finite other => cases other <;> rfl
  | finite sign m e =>
      cases right with
      | notANumber => rfl
      | infinity other => cases sign <;> cases other <;> rfl
      | zero other => cases sign <;> rfl
      | finite other n f =>
          cases sign with
          | positive =>
              cases other with
              | positive => exact congrArg some (magnitudes m n e f)
              | negative => rfl
          | negative =>
              cases other with
              | positive => rfl
              | negative => exact congrArg some (congrArg Ordering.swap (magnitudes m n e f))

/-- Numbers can be compared. -/
theorem exists_compare {left right : UnpackedFloat}
    (numbers : left.isNaN = false ∧ right.isNaN = false) :
    ∃ order, left.compare right = some order := by
  rcases numbers with ⟨leftNumber, rightNumber⟩
  cases left with
  | notANumber => cases leftNumber
  | infinity sign =>
      cases right with
      | notANumber => cases rightNumber
      | infinity other => cases sign <;> cases other <;> exact ⟨_, rfl⟩
      | zero other => cases sign <;> exact ⟨_, rfl⟩
      | finite other => cases sign <;> exact ⟨_, rfl⟩
  | zero sign =>
      cases right with
      | notANumber => cases rightNumber
      | infinity other => cases other <;> exact ⟨_, rfl⟩
      | zero other => exact ⟨_, rfl⟩
      | finite other => cases other <;> exact ⟨_, rfl⟩
  | finite sign =>
      cases right with
      | notANumber => cases rightNumber
      | infinity other => cases sign <;> cases other <;> exact ⟨_, rfl⟩
      | zero other => cases sign <;> exact ⟨_, rfl⟩
      | finite other => cases sign <;> cases other <;> exact ⟨_, rfl⟩

/-- Doubles can be compared unless one of them is not a number. -/
theorem compare_eq_none_iff {left right : UnpackedFloat} :
    left.compare right = none ↔ left.isNaN = true ∨ right.isNaN = true := by
  constructor
  · intro unordered
    by_contra numbers
    rw [not_or, Bool.not_eq_true, Bool.not_eq_true] at numbers
    rcases exists_compare numbers with ⟨order, compared⟩
    cases unordered.symm.trans compared
  · rintro (notNumber | notNumber)
    · cases left with
      | notANumber => cases right <;> rfl
      | infinity | zero | finite => cases notNumber
    · cases right with
      | notANumber => cases left <;> rfl
      | infinity | zero | finite => cases notNumber

/-- Of two doubles the first is at most the second when the second is not below it,
and both are numbers. -/
theorem le_iff_not_lt {x y : Float} :
    x ≤ y ↔ ¬ y < x ∧ x.isNaN = false ∧ y.isNaN = false := by
  have atMost : x ≤ y ↔ (x.toModel.unpack.compare y.toModel.unpack).any (·.isLE) = true :=
    decide_eq_true_iff
  have below : y < x ↔ (y.toModel.unpack.compare x.toModel.unpack == some .lt) = true :=
    decide_eq_true_iff
  rw [atMost, below, compare_swap x.toModel.unpack y.toModel.unpack]
  change _ ↔ _ ∧ x.toModel.unpack.isNaN = false ∧ y.toModel.unpack.isNaN = false
  have comparable := @compare_eq_none_iff x.toModel.unpack y.toModel.unpack
  cases compared : x.toModel.unpack.compare y.toModel.unpack with
  | none =>
      apply iff_of_false nofun
      rintro ⟨_, left, right⟩
      rcases comparable.1 compared with unordered | unordered
      · exact Bool.eq_false_iff.1 left unordered
      · exact Bool.eq_false_iff.1 right unordered
  | some order =>
      rw [compared, iff_false_left nofun, not_or, Bool.not_eq_true, Bool.not_eq_true] at comparable
      rw [and_iff_left comparable]
      cases order with
      | lt => exact iff_of_true rfl (by decide)
      | eq => exact iff_of_true rfl (by decide)
      | gt => exact iff_of_false (by decide) (by decide)

theorem le_of_lt {x y : Float} (below : x < y) : x ≤ y := by
  have less : x < y ↔ (x.toModel.unpack.compare y.toModel.unpack == some .lt) = true :=
    decide_eq_true_iff
  have atMost : x ≤ y ↔ (x.toModel.unpack.compare y.toModel.unpack).any (·.isLE) = true :=
    decide_eq_true_iff
  rw [atMost, eq_of_beq (less.1 below)]
  rfl

/-! ## What passes -/

theorem check_eq_ok_iff {score points : Float} :
    check score points = .ok () ↔ score.isFinite = true ∧ ¬ score < 0 ∧ ¬ points < score := by
  unfold check
  cases score.isFinite with
  | false => exact iff_of_false nofun nofun
  | true =>
      simp only [Bool.not_true, Bool.false_eq_true, if_false, Bool.or_eq_true, decide_eq_true_eq,
        true_and]
      split_ifs with outside
      · apply iff_of_false nofun
        rintro ⟨above, below⟩
        exact outside.elim above below
      · exact iff_of_true rfl (not_or.1 outside)

theorem checkExtra_eq_ok_iff {amount : Float} :
    checkExtra amount = .ok () ↔ amount.isFinite = true ∧ ¬ amount < 0 := by
  unfold checkExtra
  cases amount.isFinite with
  | false => exact iff_of_false nofun nofun
  | true =>
      simp only [Bool.not_true, Bool.false_eq_true, if_false, true_and]
      split_ifs with below
      · exact iff_of_false nofun (not_not_intro below)
      · exact iff_of_true rfl below

theorem zero_le_of_not_lt {x : Float} (finite : x.isFinite = true) (above : ¬ x < 0) : 0 ≤ x :=
  le_iff_not_lt.2 ⟨above, by decide, (Decimal.isNaN_and_isInf_of_isFinite finite).1⟩

/-- What passes is at most the budget, unless the budget is not a number. -/
theorem le_iff {score points : Float} (passed : check score points = .ok ()) :
    score ≤ points ↔ points.isNaN = false := by
  rcases check_eq_ok_iff.1 passed with ⟨finite, _, below⟩
  rw [le_iff_not_lt, and_iff_right below,
    and_iff_right (Decimal.isNaN_and_isInf_of_isFinite finite).1]

/-- With a budget that is a number, what passes is finite and lies between zero and the
budget. -/
theorem check_eq_ok_iff_le {score points : Float} (number : points.isNaN = false) :
    check score points = .ok () ↔ score.isFinite = true ∧ 0 ≤ score ∧ score ≤ points := by
  constructor
  · intro passed
    rcases check_eq_ok_iff.1 passed with ⟨finite, above, _⟩
    exact ⟨finite, zero_le_of_not_lt finite above, (le_iff passed).2 number⟩
  · rintro ⟨finite, above, below⟩
    exact check_eq_ok_iff.2 ⟨finite, (le_iff_not_lt.1 above).1, (le_iff_not_lt.1 below).1⟩

theorem checkExtra_eq_ok_iff_le {amount : Float} :
    checkExtra amount = .ok () ↔ amount.isFinite = true ∧ 0 ≤ amount := by
  rw [checkExtra_eq_ok_iff]
  refine and_congr_right fun finite => ⟨zero_le_of_not_lt finite, fun above => ?_⟩
  exact (le_iff_not_lt.1 above).1

end Score

/-! ## Numbers of a payload -/

namespace Number

/-- Bits stand for a number unless the exponent is all ones and the mantissa is not
zero. -/
theorem isNaN_unpack {bits : BitVec Format.binary64.numBits}
    (number : unpackExponent bits = -1#_ → unpackMantissa bits = 0#_) :
    (UnpackedFloat.unpack Format.binary64 bits).isNaN = false := by
  unfold UnpackedFloat.unpack
  dsimp only
  by_cases ones : unpackExponent bits = -1#_
  · rw [if_pos ones, if_pos (number ones)]
    rfl
  rw [if_neg ones]
  by_cases small : unpackExponent bits = 0#_
  · rw [if_pos small]
    by_cases zero : unpackMantissa bits = 0#_
    · rw [dif_pos zero]
      rfl
    · rw [dif_neg zero]
      rfl
  · rw [if_neg small]
    rfl

/-- A number is written with the bits of a number. -/
theorem isNaN_unpack_pack {unpacked : UnpackedFloat} (number : unpacked.isNaN = false) :
    (UnpackedFloat.unpack Format.binary64 (unpacked.pack Format.binary64)).isNaN = false := by
  apply isNaN_unpack
  cases unpacked with
  | notANumber => cases number
  | infinity sign => exact fun _ => unpackMantissa_packComponents
  | zero sign => exact fun _ => unpackMantissa_packComponents
  | finite sign mantissa exponent positive =>
      unfold UnpackedFloat.pack
      dsimp only
      split_ifs with large normal
      · exact fun _ => unpackMantissa_packComponents
      · rw [unpackExponent_packComponents]
        intro ones
        have bits := congrArg BitVec.toNat ones
        have greatest : (-BitVec.ofNat Format.binary64.exponentBits 1).toNat + 1 =
            2 ^ Format.binary64.exponentBits := by decide
        rw [BitVec.toNat_ofNat, Nat.mod_eq_of_lt (by omega)] at bits
        rw [← bits] at greatest
        exact absurd (Nat.le_of_eq greatest.symm) large
      · rw [unpackExponent_packComponents]
        intro impossible
        exact absurd impossible (by decide)

theorem isNaN_normalize (mantissa exponent : Int) (sign : UnpackedFloat.Sign) :
    (UnpackedFloat.normalize Format.binary64 mantissa exponent sign).isNaN = false := by
  have rounds : ∀ other m e, (UnpackedFloat.round Format.binary64 other m e).isNaN = false := by
    intro other m e
    have rounded : ∀ (mantissa : Nat) (exponent : Int),
        (if vanishes : mantissa = 0 then UnpackedFloat.zero other
          else .finite other mantissa exponent (Nat.pos_of_ne_zero vanishes)).isNaN = false := by
      intro mantissa exponent
      by_cases vanishes : mantissa = 0
      · rw [dif_pos vanishes]
        rfl
      · rw [dif_neg vanishes]
        rfl
    exact rounded _ _
  unfold UnpackedFloat.normalize
  cases compare mantissa 0 with
  | lt => exact rounds _ _ _
  | eq => rfl
  | gt => exact rounds _ _ _

/-- A number of a payload is a number as a double. -/
theorem isNaN_toFloat (n : Number) : n.toFloat.isNaN = false := by
  have natural : ∀ k : UInt64, k.toFloat.isNaN = false := fun k =>
    isNaN_unpack_pack (isNaN_normalize _ _ _)
  cases n with
  | natural k => exact natural k
  | negative k =>
      apply isNaN_unpack_pack
      have number : (k.val + 1).toUInt64.toFloat.toModel.unpack.isNaN = false := natural _
      cases unpacked : (k.val + 1).toUInt64.toFloat.toModel.unpack with
      | notANumber =>
          rw [unpacked] at number
          cases number
      | infinity sign => rfl
      | zero sign => rfl
      | finite sign mantissa exponent => rfl
  | double x finite => exact (Decimal.isNaN_and_isInf_of_isFinite finite).1

end Number

end Gradebook
