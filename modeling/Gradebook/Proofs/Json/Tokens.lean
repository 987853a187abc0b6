import Gradebook.Json.Parser
import Gradebook.Json.Printer
import Gradebook.Proofs.Digits
import Gradebook.Proofs.Outcome
import Mathlib.Tactic.SplitIfs

namespace Gradebook

namespace Json

/-!
# Reading tokens that were written

A string is read from what it is written as, and so are the two kinds of integers.
Doubles are not always: their digits become a whole number first, which is then
scaled, and the result may be a neighbour of the double that was written.  So
what a number is read as is stated for its text alone, and one lemma says that
nothing behind it makes a difference.
-/

/-! ## Strings -/

theorem hexDigit?_digitChar : ∀ digit < 16, Text.hexDigit? (Nat.digitChar digit) = some digit := by
  decide

theorem codeUnit_digits {high low : Nat} (highSmall : high < 16) (lowSmall : low < 16)
    (rest : List Char) :
    codeUnit ('0' :: '0' :: Nat.digitChar high :: Nat.digitChar low :: rest) =
      .ok (16 * high + low, rest) := by
  have zero : Text.hexDigit? '0' = some 0 := rfl
  simp only [codeUnit, zero, hexDigit?_digitChar high highSmall, hexDigit?_digitChar low lowSmall,
    Nat.zero_mul, Nat.zero_add, Nat.mul_comm high 16]

/-- One written character is read as itself. -/
theorem stringBody_writeChar (strict : Bool) (fuel : Nat) (c : Char) (rest : List Char) :
    stringBody strict (fuel + 1) (writeChar c ++ rest) =
      (stringBody strict fuel rest >>= fun (more, rest) => .ok (c :: more, rest)) := by
  unfold writeChar
  split_ifs with quote backslash backspace feed newline carriage tab control
  · subst quote; rfl
  · subst backslash; rfl
  · subst backspace; rfl
  · subst feed; rfl
  · subst newline; rfl
  · subst carriage; rfl
  · subst tab; rfl
  · have high : c.toNat / 16 < 16 := by omega
    have low : c.toNat % 16 < 16 := by omega
    have unit := codeUnit_digits high low rest
    have whole : 16 * (c.toNat / 16) + c.toNat % 16 = c.toNat := by omega
    have trailing : isTrailing c.toNat = false := by simp only [isTrailing]; grind
    have leading : isLeading c.toNat = false := by simp only [isLeading]; grind
    rw [whole] at unit
    simp only [List.cons_append, List.nil_append, stringBody, Char.reduceEq, if_false, if_true,
      unit, trailing, leading, Bool.and_false, Bool.false_eq_true, Outcome.ok_bind,
      Char.ofNat_toNat]
    rfl
  · simp only [List.cons_append, List.nil_append, stringBody, quote, backslash, control, if_false]
    rfl

/-- A string is read from what it is written as. -/
theorem stringBody_written (strict : Bool) (content rest : List Char) {fuel : Nat}
    (enough : content.length < fuel) :
    stringBody strict fuel (content.flatMap writeChar ++ '"' :: rest) = .ok (content, rest) := by
  induction content generalizing fuel with
  | nil =>
      obtain ⟨fuel, rfl⟩ := Nat.exists_eq_add_of_lt enough
      rfl
  | cons c content inductionHypothesis =>
      cases fuel with
      | zero => cases enough
      | succ fuel =>
          rw [List.flatMap_cons, List.append_assoc, stringBody_writeChar,
            inductionHypothesis (Nat.lt_of_succ_lt_succ enough)]
          rfl

theorem scanString_written (s : String) (rest : List Char) {fuel : Nat}
    (enough : s.toList.length < fuel) :
    scanString fuel (s.toList.flatMap writeChar ++ '"' :: rest) = .ok (.ok s, rest) := by
  rw [scanString, stringBody_written true s.toList rest enough]
  simp only [String.ofList_toList]

theorem spelling_cons {c : Char} (unquoted : c ≠ '"') (unescaped : c ≠ '\\') (rest : List Char) :
    spelling (c :: rest) = c :: spelling rest := by
  rw [spelling.eq_def]
  split <;> simp_all

theorem spelling_writeChar (c : Char) (rest : List Char) :
    spelling (writeChar c ++ rest) = writeChar c ++ spelling rest := by
  unfold writeChar
  split_ifs with quote backslash
  · rfl
  · rfl
  · rfl
  · rfl
  · rfl
  · rfl
  · rfl
  · have digit : ∀ n < 16, Nat.digitChar n ≠ '"' ∧ Nat.digitChar n ≠ '\\' := by decide
    have high := digit (c.toNat / 16) (by omega)
    have low := digit (c.toNat % 16) (by omega)
    have zero : ∀ text, spelling ('0' :: text) = '0' :: spelling text := fun _ => rfl
    simp only [List.cons_append, List.nil_append, spelling, zero, spelling_cons high.1 high.2,
      spelling_cons low.1 low.2]
  · exact spelling_cons quote backslash rest

/-- A written string is spelled as it stands. -/
theorem spelling_written (content rest : List Char) :
    spelling (content.flatMap writeChar ++ '"' :: rest) = content.flatMap writeChar := by
  induction content with
  | nil => rfl
  | cons c content inductionHypothesis =>
      rw [List.flatMap_cons, List.append_assoc, spelling_writeChar, inductionHypothesis]

/-! ## Where numbers end -/

/-- Whether a number may go on with a character. -/
def continuesNumber (c : Char) : Bool :=
  c.isDigit || c = '.' || c = 'e' || c = 'E'

variable {negative : Bool} {digits text left rest : List Char}

theorem stops_isDigit (stops : Decimal.Stops continuesNumber rest) :
    Decimal.Stops Char.isDigit rest := by
  intro c first
  have other := stops c first
  simp only [continuesNumber, Bool.or_eq_false_iff] at other
  exact other.1.1.1

theorem scanFraction_of_stops (stops : Decimal.Stops continuesNumber rest) :
    scanFraction rest = .ok (none, rest) := by
  unfold scanFraction
  split
  · cases stops _ rfl
  · rfl

theorem scanExponent_of_stops (stops : Decimal.Stops continuesNumber rest) :
    scanExponent rest = .ok (none, rest) := by
  cases rest with
  | nil => rfl
  | cons c rest =>
      have other := stops c rfl
      simp only [continuesNumber, Bool.or_eq_false_iff, decide_eq_false_iff_not] at other
      simp only [scanExponent, other, decide_false, Bool.or_self, Bool.false_eq_true, if_false]

theorem scanFraction_append {fraction : Option (List Char)}
    (stops : Decimal.Stops continuesNumber rest)
    (scanned : scanFraction text = .ok (fraction, left)) :
    scanFraction (text ++ rest) = .ok (fraction, left ++ rest) := by
  cases text with
  | nil =>
      cases scanned
      exact scanFraction_of_stops stops
  | cons c text =>
      by_cases point : c = '.'
      · subst point
        simp only [scanFraction] at scanned
        simp only [List.cons_append, scanFraction,
          Decimal.takeWhile_append_of_stops text (stops_isDigit stops),
          Decimal.dropWhile_append_of_stops text (stops_isDigit stops)]
        split_ifs at scanned with empty
        cases scanned
        rw [if_neg empty]
      · have unread : ∀ more, scanFraction (c :: more) = .ok (none, c :: more) := by
          intro more
          rw [scanFraction.eq_def]
          split
          · next same => exact absurd (List.cons.inj same).1 point
          · rfl
        rw [unread] at scanned
        cases scanned
        exact unread (text ++ rest)

theorem signed_append (nonempty : text ≠ []) :
    Decimal.signed (text ++ rest) =
      ((Decimal.signed text).1, (Decimal.signed text).2 ++ rest) := by
  cases text with
  | nil => exact absurd rfl nonempty
  | cons c text =>
      rw [List.cons_append, Decimal.signed.eq_def, Decimal.signed.eq_def (c :: text)]
      split <;> simp_all

theorem scanExponent_append {exponent : Option Int}
    (stops : Decimal.Stops continuesNumber rest)
    (scanned : scanExponent text = .ok (exponent, left)) :
    scanExponent (text ++ rest) = .ok (exponent, left ++ rest) := by
  cases text with
  | nil =>
      cases scanned
      exact scanExponent_of_stops stops
  | cons mark text =>
      simp only [List.cons_append, scanExponent] at scanned ⊢
      by_cases marked : (mark = 'e' || mark = 'E') = true
      · have nonempty : text ≠ [] := by
          rintro rfl
          rw [if_pos marked] at scanned
          cases scanned
        rw [if_pos marked] at scanned ⊢
        simp only [signed_append nonempty] at scanned ⊢
        simp only [Decimal.takeWhile_append_of_stops _ (stops_isDigit stops),
          Decimal.dropWhile_append_of_stops _ (stops_isDigit stops)]
        by_cases empty : ((Decimal.signed text).2.takeWhile Char.isDigit).isEmpty = true
        · rw [if_pos empty] at scanned
          cases scanned
        · rw [if_neg empty] at scanned ⊢
          cases scanned
          rfl
      · rw [if_neg marked] at scanned ⊢
        cases scanned
        rfl

/-- A minus in front of a number, and the text behind it. -/
def unsigned : List Char → Bool × List Char
  | '-' :: rest => (true, rest)
  | text => (false, text)

theorem unsigned_cons {c : Char} (unsignedText : c ≠ '-') :
    unsigned (c :: text) = (false, c :: text) := by
  rw [unsigned.eq_def]
  split
  · next same => exact absurd (List.cons.inj same).1 unsignedText
  · rfl

theorem unsigned_append (nonempty : text ≠ []) :
    unsigned (text ++ rest) = ((unsigned text).1, (unsigned text).2 ++ rest) := by
  cases text with
  | nil => exact absurd rfl nonempty
  | cons c text =>
      by_cases minus : c = '-'
      · subst minus
        rfl
      · rw [List.cons_append, unsigned_cons minus, unsigned_cons minus, List.cons_append]

/-- The number that the parts of a text stand for. -/
def assembled (negative : Bool) (digits : List Char) (fraction : Option (List Char))
    (exponent : Option Int) : Option Number :=
  match fraction, exponent with
  | none, none => integer? negative digits
  | _, _ =>
    let whole := Significand.whole 0 digits
    let (value, places) := Significand.fraction whole.value (fraction.getD [])
    double? negative value (whole.dropped - places + exponent.getD 0)

/-- Read a number behind its sign. -/
def scanUnsigned (negative : Bool) (text : List Char) :
    Except Fault (Option Number × List Char) := do
  let digits := text.takeWhile Char.isDigit
  let rest := text.dropWhile Char.isDigit
  if digits.isEmpty then throw (shortNumber rest)
  if digits.head? = some '0' && digits.length ≠ 1 then throw (.plain (.malformed .number))
  let (fraction, rest) ← scanFraction rest
  let (exponent, rest) ← scanExponent rest
  return (assembled negative digits fraction exponent, rest)

theorem scanNumber_eq (text : List Char) :
    scanNumber text = scanUnsigned (unsigned text).1 (unsigned text).2 := by
  unfold scanUnsigned scanNumber
  refine ite_congr rfl (fun _ => rfl) fun _ => ite_congr rfl (fun _ => rfl) fun _ => ?_
  refine bind_congr fun first => bind_congr fun second => ?_
  obtain ⟨fraction, behind⟩ := first
  obtain ⟨exponent, left⟩ := second
  cases fraction <;> cases exponent <;> rfl

/-- A number is read part by part: digits that do not begin with a needless zero,
a fraction and an exponent. -/
theorem scanUnsigned_eq_ok_iff {n : Option Number} :
    scanUnsigned negative text = .ok (n, left) ↔
      text.takeWhile Char.isDigit ≠ [] ∧
      ((text.takeWhile Char.isDigit).head? = some '0' →
        (text.takeWhile Char.isDigit).length = 1) ∧
      ∃ fraction behind, scanFraction (text.dropWhile Char.isDigit) = .ok (fraction, behind) ∧
      ∃ exponent, scanExponent behind = .ok (exponent, left) ∧
        n = assembled negative (text.takeWhile Char.isDigit) fraction exponent := by
  unfold scanUnsigned
  dsimp only
  generalize text.takeWhile Char.isDigit = digits
  generalize text.dropWhile Char.isDigit = behind
  by_cases empty : digits.isEmpty = true
  · rw [if_pos empty]
    constructor
    · intro scanned
      cases scanned
    · rintro ⟨nonempty, _⟩
      exact absurd (List.isEmpty_iff.1 empty) nonempty
  have nonempty : digits ≠ [] := fun equal => empty (List.isEmpty_iff.2 equal)
  rw [if_neg empty]
  by_cases padded : (decide (digits.head? = some '0') && decide (digits.length ≠ 1)) = true
  · rw [if_pos padded]
    simp only [Bool.and_eq_true, decide_eq_true_eq] at padded
    constructor
    · intro scanned
      cases scanned
    · rintro ⟨_, single, _⟩
      exact absurd (single padded.1) padded.2
  · rw [if_neg padded]
    simp only [Bool.and_eq_true, decide_eq_true_eq, not_and, not_not] at padded
    simp only [Outcome.bind_eq_ok, Outcome.pure_eq_ok, Prod.mk.injEq, Prod.exists]
    constructor
    · rintro ⟨fraction, behind, scannedFraction, exponent, _, scannedExponent, same, rfl⟩
      exact ⟨nonempty, padded, fraction, behind, scannedFraction, exponent, scannedExponent,
        same.symm⟩
    · rintro ⟨_, _, fraction, behind, scannedFraction, exponent, scannedExponent, same⟩
      exact ⟨fraction, behind, scannedFraction, exponent, left, scannedExponent, same.symm, rfl⟩

theorem scanUnsigned_append {n : Option Number}
    (stops : Decimal.Stops continuesNumber rest)
    (scanned : scanUnsigned negative text = .ok (n, left)) :
    scanUnsigned negative (text ++ rest) = .ok (n, left ++ rest) := by
  obtain ⟨nonempty, single, fraction, behind, scannedFraction, exponent, scannedExponent, same⟩ :=
    scanUnsigned_eq_ok_iff.1 scanned
  have digits := Decimal.takeWhile_append_of_stops text (stops_isDigit stops)
  have others := Decimal.dropWhile_append_of_stops text (stops_isDigit stops)
  rw [scanUnsigned_eq_ok_iff, digits, others]
  exact ⟨nonempty, single, fraction, behind ++ rest, scanFraction_append stops scannedFraction,
    exponent, scanExponent_append stops scannedExponent, same⟩

/-- Nothing that stands behind a number changes what it is read as. -/
theorem scanNumber_append {n : Option Number} (stops : Decimal.Stops continuesNumber rest)
    (scanned : scanNumber text = .ok (n, left)) :
    scanNumber (text ++ rest) = .ok (n, left ++ rest) := by
  have nonempty : text ≠ [] := by
    rintro rfl
    cases scanned
  rw [scanNumber_eq] at scanned ⊢
  rw [unsigned_append nonempty]
  exact scanUnsigned_append stops scanned

/-! ## Integers -/

/-- Digits as they are written for a number: there are some, and only zero begins
with a zero. -/
structure Digits (digits : List Char) : Prop where
  all : ∀ c ∈ digits, c.isDigit = true
  nonempty : digits ≠ []
  single : digits.head? = some '0' → digits.length = 1

theorem digits_toDigits (n : Nat) : Digits (Nat.toDigits 10 n) where
  all := fun _ digit => Decimal.isDigit_of_mem_toDigits digit
  nonempty := Nat.toDigits_ne_nil
  single := Decimal.length_toDigits_of_head?

/-- What behind digits is read as a fraction and an exponent is read behind them. -/
theorem Digits.scanUnsigned (whole : Digits digits) (stops : Decimal.Stops Char.isDigit rest)
    {fraction : Option (List Char)} {behind : List Char} {exponent : Option Int}
    (scannedFraction : scanFraction rest = .ok (fraction, behind))
    (scannedExponent : scanExponent behind = .ok (exponent, left)) :
    Json.scanUnsigned negative (digits ++ rest) =
      .ok (assembled negative digits fraction exponent, left) := by
  rw [scanUnsigned_eq_ok_iff, Decimal.takeWhile_of_all whole.all stops,
    Decimal.dropWhile_of_all whole.all stops]
  exact ⟨whole.nonempty, whole.single, fraction, behind, scannedFraction, exponent,
    scannedExponent, rfl⟩

theorem Digits.unsigned (whole : Digits digits) : Json.unsigned (digits ++ rest) =
    (false, digits ++ rest) := by
  cases digits with
  | nil => exact absurd rfl whole.nonempty
  | cons c digits =>
      have digit := whole.all c List.mem_cons_self
      apply unsigned_cons
      rintro rfl
      exact absurd digit (by decide)

theorem Digits.scanNumber (whole : Digits digits) :
    Json.scanNumber digits = .ok (integer? false digits, []) := by
  have sign : Json.unsigned digits = (false, digits) := by
    have appended : Json.unsigned (digits ++ []) = (false, digits ++ []) := whole.unsigned
    rwa [List.append_nil] at appended
  have scanned : Json.scanUnsigned false (digits ++ []) = .ok (integer? false digits, []) :=
    whole.scanUnsigned (Decimal.stops_nil Char.isDigit) rfl rfl
  rw [List.append_nil] at scanned
  rw [scanNumber_eq, sign]
  exact scanned

theorem Digits.scanNumber_minus (whole : Digits digits) :
    Json.scanNumber ('-' :: digits) = .ok (integer? true digits, []) := by
  have scanned : Json.scanUnsigned true (digits ++ []) = .ok (integer? true digits, []) :=
    whole.scanUnsigned (Decimal.stops_nil Char.isDigit) rfl rfl
  rw [List.append_nil] at scanned
  rw [scanNumber_eq]
  exact scanned

theorem le_foldl_digits (digits : List Char) (n : Nat) :
    n ≤ digits.foldl (fun n digit => 10 * n + (digit.toNat - '0'.toNat)) n := by
  induction digits generalizing n with
  | nil => exact Nat.le_refl n
  | cons digit digits inductionHypothesis =>
      rw [List.foldl_cons]
      exact Nat.le_trans (by omega) (inductionHypothesis _)

/-- What comes of a number and the digits behind the next one, once it is known
what that one makes of the number. -/
def Significand.beyond (n : UInt64) (digits : List Char) : Option UInt64 → Significand
  | some next => whole next digits
  | none => ⟨n, digits.length + 1⟩

theorem push?_eq_some_iff {n next : UInt64} {digit : Char} :
    Significand.push? n digit = some next ↔
      10 * n.toNat + (digit.toNat - '0'.toNat) = next.toNat := by
  have bound := next.toNat_lt_size
  rw [Significand.push?, Nat.mul_comm 10]
  split_ifs with fits
  · rw [Option.some.injEq, ← UInt64.toNat_inj]
    exact Eq.congr_left (UInt64.toNat_ofNat_of_lt fits)
  · simp only [false_iff]
    omega

theorem whole_cons (n : UInt64) (digit : Char) (digits : List Char) :
    Significand.whole n (digit :: digits) =
      Significand.beyond n digits (Significand.push? n digit) := by
  -- the equations that the definition comes with take Lean too long to state
  change Significand.beyond n digits (Significand.push? n digit) = _
  rfl

/-- Digits are all taken in where their number fits into 64 bits, and make this number. -/
theorem whole_eq_iff {n total : UInt64} : Significand.whole n digits = ⟨total, 0⟩ ↔
    digits.foldl (fun n digit => 10 * n + (digit.toNat - '0'.toNat)) n.toNat = total.toNat := by
  induction digits generalizing n with
  | nil =>
      have nothing : Significand.whole n [] = ⟨n, 0⟩ := by
        change Significand.mk n 0 = _
        rfl
      rw [nothing, List.foldl_nil, UInt64.toNat_inj, Significand.mk.injEq]
      exact and_iff_left rfl
  | cons digit digits inductionHypothesis =>
      rw [whole_cons, List.foldl_cons]
      cases pushed : Significand.push? n digit with
      | some next =>
          rw [push?_eq_some_iff.1 pushed]
          exact inductionHypothesis
      | none =>
          -- what does not fit is left out, and the digits that follow do not make it less
          simp only [Significand.beyond, Significand.mk.injEq, Nat.succ_ne_zero, and_false,
            false_iff]
          intro value
          have exceeds := le_foldl_digits digits (10 * n.toNat + (digit.toNat - '0'.toNat))
          have fits : 10 * n.toNat + (digit.toNat - '0'.toNat) < UInt64.size :=
            Nat.lt_of_le_of_lt (value ▸ exceeds) total.toNat_lt_size
          have taken := push?_eq_some_iff.2 (UInt64.toNat_ofNat_of_lt fits).symm
          rw [pushed] at taken
          cases taken

theorem whole_toDigits (n : UInt64) : Significand.whole 0 (Nat.toDigits 10 n.toNat) = ⟨n, 0⟩ :=
  whole_eq_iff.2 (Decimal.natural_toDigits n.toNat)

theorem scanNumber_natural (n : UInt64) :
    scanNumber (Number.natural n).write = .ok (some (.natural n), []) := by
  have digits := (digits_toDigits n.toNat).scanNumber
  simp only [integer?, whole_toDigits, if_true, Bool.false_eq_true, if_false] at digits
  exact digits

theorem scanNumber_negative (k : Fin Number.negatives) :
    scanNumber (Number.negative k).write = .ok (some (.negative k), []) := by
  have digits := (digits_toDigits (k.val + 1)).scanNumber_minus
  have small : k.val + 1 ≤ Number.negatives := k.isLt
  have value : (k.val + 1).toUInt64.toNat = k.val + 1 := by
    apply UInt64.toNat_ofNat_of_lt
    simp only [Number.negatives, UInt64.size] at small ⊢
    omega
  have whole := whole_toDigits (k.val + 1).toUInt64
  rw [value] at whole
  simp only [integer?, whole, if_true, value, Nat.succ_pos, true_and, small, dite_true,
     Nat.add_sub_cancel] at digits
  exact digits

end Json

end Gradebook
