import Gradebook.Decimal.Reader
import Mathlib.Data.List.TakeWhile
import Mathlib.Tactic.SplitIfs

namespace Gradebook

/-!
# Digits of natural numbers

Numbers are written into paths and documents with the same digits, and read there
by different readers.  The facts here are about the digits alone: they are digits,
the first one is no zero unless it is the only one, and their value is the number.
Where a run of digits ends is decided by what stands behind it.
-/

namespace Decimal

/-! ## Where digits end -/

/-- Whether a text does not go on with a character of some kind. -/
def Stops (kind : Char → Bool) (rest : List Char) : Prop :=
  ∀ c ∈ rest.head?, kind c = false

variable {kind : Char → Bool} {digits rest : List Char}

theorem stops_nil (kind : Char → Bool) : Stops kind [] := by
  intro c impossible
  cases impossible

theorem stops_cons {c : Char} (other : kind c = false) : Stops kind (c :: rest) := by
  rintro _ ⟨⟩
  exact other

/-- A run of characters of a kind ends where it would end alone, if what follows
does not go on with that kind. -/
theorem takeWhile_append_of_stops (text : List Char) (stops : Stops kind rest) :
    (text ++ rest).takeWhile kind = text.takeWhile kind := by
  induction text with
  | nil =>
      cases rest with
      | nil => rfl
      | cons c rest => exact List.takeWhile_cons_of_neg (Bool.eq_false_iff.1 (stops c rfl))
  | cons c text inductionHypothesis =>
      rw [List.cons_append, List.takeWhile_cons, List.takeWhile_cons, inductionHypothesis]

theorem dropWhile_append_of_stops (text : List Char) (stops : Stops kind rest) :
    (text ++ rest).dropWhile kind = text.dropWhile kind ++ rest := by
  induction text with
  | nil =>
      cases rest with
      | nil => rfl
      | cons c rest => exact List.dropWhile_cons_of_neg (Bool.eq_false_iff.1 (stops c rfl))
  | cons c text inductionHypothesis =>
      rw [List.cons_append, List.dropWhile_cons, List.dropWhile_cons, inductionHypothesis]
      split_ifs
      · rfl
      · rfl

theorem takeWhile_of_all (all : ∀ c ∈ digits, kind c = true) (stops : Stops kind rest) :
    (digits ++ rest).takeWhile kind = digits := by
  rw [takeWhile_append_of_stops digits stops, List.takeWhile_eq_self_iff.2 all]

theorem dropWhile_of_all (all : ∀ c ∈ digits, kind c = true) (stops : Stops kind rest) :
    (digits ++ rest).dropWhile kind = rest := by
  rw [dropWhile_append_of_stops digits stops, List.dropWhile_eq_nil_iff.2 all, List.nil_append]

/-! ## The digits of a number -/

theorem isDigit_of_mem_toDigits {n : Nat} {c : Char} (digit : c ∈ Nat.toDigits 10 n) :
    c.isDigit = true :=
  Nat.isDigit_of_mem_toDigits (by decide) (by decide) digit

theorem natural_toDigits (n : Nat) : natural (Nat.toDigits 10 n) = n :=
  Nat.ofDigitChars_ten_toDigits

/-- Only zero is written with a leading zero. -/
theorem eq_zero_of_head?_toDigits {n : Nat} (zero : (Nat.toDigits 10 n).head? = some '0') :
    n = 0 := by
  induction n using Nat.strongRecOn with
  | ind n inductionHypothesis =>
      by_cases small : n < 10
      · rw [Nat.toDigits_of_lt_base small] at zero
        exact Nat.digitChar_eq_zero.1 (Option.some.inj zero)
      · obtain ⟨first, digits, split⟩ := List.exists_cons_of_ne_nil
          (Nat.toDigits_ne_nil : Nat.toDigits 10 (n / 10) ≠ [])
        rw [Nat.toDigits_of_base_le (by decide) (Nat.le_of_not_lt small), split] at zero
        have quotient := inductionHypothesis (n / 10) (by omega) (split ▸ zero)
        omega

theorem length_toDigits_of_head? {n : Nat} (zero : (Nat.toDigits 10 n).head? = some '0') :
    (Nat.toDigits 10 n).length = 1 := by
  rw [eq_zero_of_head?_toDigits zero, Nat.toDigits_zero]
  rfl

/-- A number of 64 bits is read from the text that it is written as. -/
theorem natural64?_toString (n : UInt64) : natural64? (toString n.toNat) = some n := by
  have digits : (toString n.toNat).toList = Nat.toDigits 10 n.toNat := Nat.toList_repr
  have unsigned : ∀ rest, Nat.toDigits 10 n.toNat ≠ '+' :: rest := by
    intro rest signed
    have digit := isDigit_of_mem_toDigits (n := n.toNat) (signed ▸ List.mem_cons_self)
    exact absurd digit (by decide)
  have all : (Nat.toDigits 10 n.toNat).all Char.isDigit = true :=
    List.all_eq_true.2 fun c listed => isDigit_of_mem_toDigits listed
  have nonempty : (Nat.toDigits 10 n.toNat).isEmpty = false :=
    List.isEmpty_eq_false_iff.2 Nat.toDigits_ne_nil
  unfold natural64?
  rw [digits]
  split
  · next rest signed => exact absurd signed (unsigned rest)
  · simp only [all, nonempty, natural_toDigits, Bool.not_true, Bool.or_false, Bool.false_eq_true,
      if_false, if_pos n.toNat_lt_size]
    exact congrArg some (UInt64.toNat.inj (by simp))

end Decimal

end Gradebook
