import Gradebook.Proofs.Json.Reading
import Gradebook.Proofs.Json.Text
import Mathlib.Data.List.Induction

namespace Gradebook

/-!
# Keys that are natural numbers

A key stands for a natural number of 64 bits only where it is spelled as this number is
written: no sign, no leading zero, no point, no exponent, no escape.  So two keys that stand
for one number are spelled alike, and a number that is written as a key is read again.

That nothing else is let in depends on how the numbers of a text are told apart by kind:
`1.0`, `1e2` and `-0` have a natural value, but they are doubles.
-/

/-! ## Digits -/

namespace Decimal

theorem natural_append (digits : List Char) (last : Char) :
    natural (digits ++ [last]) = 10 * natural digits + (last.toNat - '0'.toNat) := by
  simp only [natural, List.foldl_append, List.foldl_cons, List.foldl_nil]

theorem digit_lt {c : Char} (digit : c.isDigit = true) : c.toNat - '0'.toNat < 10 := by
  have upper : c.toNat ≤ 57 := (Char.isDigit_iff_toNat.1 digit).2
  have zero : '0'.toNat = 48 := rfl
  omega

/-- A digit is written as itself. -/
theorem toDigits_digit {c : Char} (digit : c.isDigit = true) :
    Nat.toDigits 10 (c.toNat - '0'.toNat) = [c] := by
  have ofNat : ∀ value < 10, Nat.digitChar value = Char.ofNat ('0'.toNat + value) := by decide
  have lower := (Char.isDigit_iff_toNat.1 digit).1
  rw [Nat.toDigits_of_lt_base (digit_lt digit), ofNat _ (digit_lt digit),
    Nat.add_sub_cancel' lower, Char.ofNat_toNat]

end Decimal

namespace Json

variable {digits rest text left : List Char} {negative : Bool} {n : UInt64}

/-- Digits without a needless zero are those that their value is written with. -/
theorem Digits.eq_toDigits (whole : Digits digits) :
    digits = Nat.toDigits 10 (Decimal.natural digits) := by
  induction digits using List.reverseRecOn with
  | nil => exact absurd rfl whole.nonempty
  | append_singleton initial last inductionHypothesis =>
      have digit : last.isDigit = true :=
        whole.all last (List.mem_append_right _ List.mem_cons_self)
      rw [Decimal.natural_append]
      cases initial with
      | nil =>
          rw [Decimal.natural, List.foldl_nil, Nat.mul_zero, Nat.zero_add,
            Decimal.toDigits_digit digit, List.nil_append]
      | cons first others =>
          have unpadded : first ≠ '0' := by
            rintro rfl
            have short := whole.single rfl
            simp only [List.cons_append, List.length_cons, List.length_append] at short
            omega
          have before := inductionHypothesis
            ⟨fun c listed => whole.all c (List.mem_append_left _ listed), List.cons_ne_nil _ _,
              fun zero => absurd (Option.some.inj zero) unpadded⟩
          have positive : 0 < Decimal.natural (first :: others) := by
            apply Nat.pos_of_ne_zero
            intro zero
            rw [zero, Nat.toDigits_zero] at before
            exact unpadded (List.cons.inj before).1
          rw [← Nat.toDigits_append_toDigits (by decide) positive (Decimal.digit_lt digit),
            ← before, Decimal.toDigits_digit digit]

/-! ## Numbers that are natural by kind -/

theorem ofFloat?_ne_natural {x : Float} : Number.ofFloat? x ≠ some (.natural n) := by
  rw [Number.ofFloat?]
  split <;> simp

theorem double?_ne_natural {significand : UInt64} {exponent : Int} :
    double? negative significand exponent ≠ some (.natural n) := by
  rw [double?]
  intro natural
  rcases Option.bind_eq_some_iff.1 natural with ⟨x, _, natural⟩
  exact ofFloat?_ne_natural natural

theorem integer?_eq_natural_iff : integer? negative digits = some (.natural n) ↔
    negative = false ∧ Significand.whole 0 digits = ⟨n, 0⟩ := by
  rw [integer?]
  rcases Significand.whole 0 digits with ⟨value, dropped⟩
  by_cases complete : dropped = 0
  · subst complete
    cases negative with
    | false => simp
    | true =>
        simp only [if_true, reduceCtorEq, false_and, iff_false]
        split_ifs
        · simp
        · exact ofFloat?_ne_natural
  · simp only [complete, if_false, double?_ne_natural, Significand.mk.injEq, and_false]

/-- Only digits alone make a number that is natural by kind. -/
theorem assembled_eq_natural_iff {fraction : Option (List Char)} {exponent : Option Int} :
    assembled negative digits fraction exponent = some (.natural n) ↔
      negative = false ∧ fraction = none ∧ exponent = none ∧
        Significand.whole 0 digits = ⟨n, 0⟩ := by
  cases fraction with
  | some places =>
      simp only [assembled, double?_ne_natural, reduceCtorEq, false_and, and_false]
  | none =>
      cases exponent with
      | some power => simp only [assembled, double?_ne_natural, reduceCtorEq, false_and, and_false]
      | none => simp only [assembled, integer?_eq_natural_iff, true_and]

theorem eq_of_scanFraction_none (scanned : scanFraction text = .ok (none, left)) : text = left := by
  rw [scanFraction.eq_def] at scanned
  split at scanned
  · dsimp only at scanned
    split_ifs at scanned with empty
    cases scanned
  · cases scanned
    rfl

theorem eq_of_scanExponent_none (scanned : scanExponent text = .ok (none, left)) :
    text = left := by
  cases text with
  | nil =>
      cases scanned
      rfl
  | cons mark text =>
      simp only [scanExponent] at scanned
      by_cases marked : (mark = 'e' || mark = 'E') = true
      · rw [if_pos marked] at scanned
        split_ifs at scanned with empty minus
        · cases scanned
        · cases scanned
      · rw [if_neg marked] at scanned
        cases scanned
        rfl

/-- A number that is natural by kind is spelled as it is written. -/
theorem eq_of_scanNumber_natural (scanned : scanNumber text = .ok (some (.natural n), left)) :
    text = Nat.toDigits 10 n.toNat ++ left := by
  rw [scanNumber_eq] at scanned
  rcases scanUnsigned_eq_ok_iff.1 scanned with
    ⟨nonempty, single, fraction, behind, scannedFraction, exponent, scannedExponent, natural⟩
  rcases assembled_eq_natural_iff.1 natural.symm with ⟨positive, rfl, rfl, taken⟩
  have same : (unsigned text).2 = text := by
    cases text with
    | nil => rfl
    | cons c text =>
        by_cases minus : c = '-'
        · subst minus
          cases positive
        · rw [unsigned_cons minus]
  rw [same] at nonempty single scannedFraction taken
  have all : ∀ c ∈ text.takeWhile Char.isDigit, c.isDigit = true :=
    fun c listed => List.mem_takeWhile_imp listed
  have written := Digits.eq_toDigits ⟨all, nonempty, single⟩
  have value : Decimal.natural (text.takeWhile Char.isDigit) = n.toNat := whole_eq_iff.1 taken
  rw [value] at written
  rw [← written, ← eq_of_scanExponent_none scannedExponent,
    ← eq_of_scanFraction_none scannedFraction, List.takeWhile_append_dropWhile]

/-! ## Keys -/

theorem naturalOf_eq_ok_iff {number : Number} : naturalOf number = .ok n ↔ number = .natural n := by
  cases number with
  | natural m => simp only [naturalOf, Except.ok.injEq, Number.natural.injEq]
  | negative k => simp only [naturalOf, reduceCtorEq]
  | double x finite => simp only [naturalOf, reduceCtorEq]

/-- What is read as a key is a number as it is written, and the key ends behind it. -/
theorem exists_of_scanNaturalKey {closed : List Char → Bool}
    (scanned : scanNaturalKey closed text = .ok n) :
    ∃ left, text = Nat.toDigits 10 n.toNat ++ left ∧ closed left = true := by
  cases text with
  | nil => cases scanned
  | cons c text =>
      rw [scanNaturalKey] at scanned
      split_ifs at scanned with first
      cases found : scanNumber (c :: text) with
      | error fault =>
          rw [found] at scanned
          cases scanned
      | ok result =>
          rcases result with ⟨number, left⟩
          rw [found] at scanned
          cases number with
          | none => cases scanned
          | some number =>
              rcases Outcome.bind_eq_ok.1 scanned with ⟨m, natural, scanned⟩
              split_ifs at scanned with ends
              cases scanned
              rw [naturalOf_eq_ok_iff.1 natural] at found
              exact ⟨left, eq_of_scanNumber_natural found, ends⟩

/-- A number is read as a key as it is written, where the key ends behind it. -/
theorem scanNaturalKey_toDigits {closed : List Char → Bool}
    (stops : Decimal.Stops continuesNumber rest) (ends : closed rest = true) :
    scanNaturalKey closed (Nat.toDigits 10 n.toNat ++ rest) = .ok n := by
  have scanned := scanNumber_append stops (scanNumber_natural n)
  rw [List.nil_append] at scanned
  have written : (Number.natural n).write = Nat.toDigits 10 n.toNat := rfl
  rw [written] at scanned
  rcases exists_cons_of_scanNumber (scanNumber_natural n) with ⟨c, digits, split, first⟩
  rw [written] at split
  rw [split, List.cons_append] at scanned ⊢
  have numeric : (decide (c = '-') || c.isDigit) = true := by simpa using first
  rw [scanNaturalKey, if_pos numeric]
  simp only [scanned, naturalOf, Outcome.ok_bind, ends, if_true]
  rfl

/-- A key stands for a natural number where it is spelled as the number is written, and
nowhere else. -/
theorem naturalKey_eq_ok_iff {origin : Origin} {key : Key} :
    naturalKey origin key = .ok n ↔ key.spelling = Nat.toDigits 10 n.toNat := by
  have quote : Decimal.Stops continuesNumber ['"'] := Decimal.stops_cons rfl
  have nothing : Decimal.Stops continuesNumber [] := Decimal.stops_nil _
  constructor
  · intro accepted
    cases origin with
    | text levels =>
        rcases exists_of_scanNaturalKey accepted with ⟨left, spelled, ends⟩
        rw [of_decide_eq_true ends] at spelled
        exact List.append_cancel_right spelled
    | value | aside =>
        rcases exists_of_scanNaturalKey accepted with ⟨left, spelled, ends⟩
        rw [spelled, List.isEmpty_iff.1 ends, List.append_nil]
  · intro spelled
    rw [naturalKey.eq_def, spelled]
    cases origin with
    | text levels => exact scanNaturalKey_toDigits quote rfl
    | value | aside =>
        have accepted := @scanNaturalKey_toDigits [] n List.isEmpty nothing rfl
        rwa [List.append_nil] at accepted

theorem writeChar_digit {c : Char} (digit : c.isDigit = true) : writeChar c = [c] := by
  have other : ∀ d : Char, d.isDigit = false → c ≠ d := by
    rintro d impossible rfl
    rw [digit] at impossible
    cases impossible
  have visible : ¬ c.toNat < 0x20 := by
    have lower : 48 ≤ c.toNat := (Char.isDigit_iff_toNat.1 digit).1
    omega
  rw [writeChar, if_neg (other '"' rfl), if_neg (other '\\' rfl), if_neg (other '\x08' rfl),
    if_neg (other '\x0c' rfl), if_neg (other '\n' rfl), if_neg (other '\r' rfl),
    if_neg (other '\t' rfl), if_neg visible]

/-- A number that is written as a key needs no escape. -/
theorem spellWritten_decimal (n : UInt64) :
    spellWritten (toString n.toNat) = Nat.toDigits 10 n.toNat := by
  have written : ∀ digits : List Char, (∀ c ∈ digits, c.isDigit = true) →
      digits.flatMap writeChar = digits := by
    intro digits all
    induction digits with
    | nil => rfl
    | cons c digits inductionHypothesis =>
        rw [List.flatMap_cons, writeChar_digit (all c List.mem_cons_self),
          inductionHypothesis fun c listed => all c (List.mem_cons_of_mem _ listed)]
        rfl
  have text : (toString n.toNat).toList = Nat.toDigits 10 n.toNat := Nat.toList_repr
  rw [spellWritten, text]
  exact written _ fun c listed => Decimal.isDigit_of_mem_toDigits listed

/-! ## Objects with such keys -/

variable {α : Type} {read : Reader α} {origin inner : Origin}

/-- Whether an entry is what a member is read as: its key is that of the entry, and its value
is read as that of the entry. -/
def ReadAsEntry (read : Reader α) (origin : Origin) (member : Key × Document)
    (entry : UInt64 × α) : Prop :=
  member.1.spelling = Nat.toDigits 10 entry.1.toNat ∧ read origin member.2 = .ok entry.2

theorem go_eq_ok_iff {members : List (Key × Document)} {entries : List (UInt64 × α)} :
    naturalMapReader.go read inner members = .ok entries ↔
      List.Forall₂ (ReadAsEntry read inner) members entries := by
  induction members generalizing entries with
  | nil =>
      rw [naturalMapReader.go, List.forall₂_nil_left_iff, Except.ok.injEq]
      exact eq_comm
  | cons member rest inductionHypothesis =>
      rcases member with ⟨key, document⟩
      simp only [naturalMapReader.go, Outcome.bind_eq_ok, Outcome.pure_eq_ok,
        naturalKey_eq_ok_iff, inductionHypothesis, List.forall₂_cons_left_iff]
      constructor
      · rintro ⟨n, spelled, a, accepted, later, matched, rfl⟩
        exact ⟨(n, a), later, ⟨spelled, accepted⟩, matched, rfl⟩
      · rintro ⟨⟨n, a⟩, later, ⟨spelled, accepted⟩, matched, rfl⟩
        exact ⟨n, spelled, a, accepted, later, matched, rfl⟩

/-- An object is read member by member, in the order in which the members stand. -/
theorem exists_of_naturalMapReader {document : Document} {entries : List (UInt64 × α)}
    (accepted : naturalMapReader read origin document = .ok entries) :
    ∃ inner members ending, document = .object members ending ∧
      List.Forall₂ (ReadAsEntry read inner) members entries := by
  cases document with
  | object members ending =>
      simp only [naturalMapReader, Outcome.bind_eq_ok] at accepted
      rcases accepted with ⟨inner, _, readEntries, readMembers, accepted⟩
      have same : readEntries = entries := by
        cases ending with
        | brokenKey fault rest =>
            rcases Outcome.bind_eq_ok.1 accepted with ⟨n, _, ⟨rfl⟩⟩
            rfl
        | closed | broken fault | keyless fault =>
            rcases Outcome.bind_eq_ok.1 accepted with ⟨_, _, ⟨rfl⟩⟩
            rfl
      rw [← same]
      exact ⟨inner, members, ending, rfl, go_eq_ok_iff.1 readMembers⟩
  | null | bool b | number n | string content | array items ending | broken fault =>
      exact absurd accepted refuse_ne_ok

theorem naturalMapReader_object (entered : origin.enter = .ok inner)
    {members : List (Key × Document)} {entries : List (UInt64 × α)}
    (matched : List.Forall₂ (ReadAsEntry read inner) members entries) :
    naturalMapReader read origin (.object members .closed) = .ok entries := by
  simp only [naturalMapReader, entered, go_eq_ok_iff.2 matched, Outcome.ok_bind]
  rfl

end Json

end Gradebook
