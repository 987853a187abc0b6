import Gradebook.Decimal.Layout
import Gradebook.Proofs.Json.Tokens
import Mathlib.Data.List.DropRight
import Mathlib.Tactic.Ring

namespace Gradebook

/-!
# Every finite double is written as a number

A double is written with the decimal that `Decimal.shortest` finds.  The search
tries eighteen grids, each ten times finer than the one before, and a decimal
without digits is what it answers when all fail.  They never do: the last grid is
finer than half the gap between two neighbouring doubles, so the decimal next to
the double from above rounds to it.

A decimal with digits is laid out as a JSON number, whatever its exponent is.
-/

namespace Decimal

/-! ## The leading exponent -/

theorem pow_digitCount_le {n : Nat} (positive : 0 < n) : 10 ^ (digitCount n - 1) ≤ n := by
  unfold digitCount
  apply Nat.le_of_not_lt
  intro less
  cases places : (Nat.toDigits 10 n).length - 1 with
  | zero =>
      rw [places] at less
      omega
  | succ fewer =>
      rw [places] at less
      have short := (Nat.length_toDigits_le_iff (by decide) (Nat.succ_pos fewer)).2 less
      omega

theorem lt_pow_digitCount (n : Nat) : n < 10 ^ digitCount n :=
  (Nat.length_toDigits_le_iff (by decide) Nat.length_toDigits_pos).1 (Nat.le_refl _)

/-- The power of ten with the leading exponent is at most the number. -/
theorem leadingExponent_le {number denominator : Nat} (positive : 0 < number)
    (divisor : 0 < denominator) :
    denominator * 10 ^ (leadingExponent number denominator).toNat ≤
      number * 10 ^ (-leadingExponent number denominator).toNat := by
  unfold leadingExponent
  by_cases large : denominator ≤ number
  · have quotient := pow_digitCount_le (Nat.div_pos large divisor)
    have exponent : ((digitCount (number / denominator) : Int) - 1).toNat =
        digitCount (number / denominator) - 1 := by omega
    have opposite : (-((digitCount (number / denominator) : Int) - 1)).toNat = 0 := by
      have some : 0 < digitCount (number / denominator) := Nat.length_toDigits_pos
      omega
    rw [if_pos large, exponent, opposite, Nat.pow_zero, Nat.mul_one]
    exact Nat.le_trans (Nat.mul_le_mul_left denominator quotient)
      (Nat.mul_div_le number denominator)
  · rw [if_neg large]
    simp only [Nat.pow_eq]
    generalize found : digitCount (denominator / number) = places
    by_cases exact : denominator ≤ number * 10 ^ (places - 1)
    · have nonpositive : (-(places - 1 : Nat) : Int).toNat = 0 := by omega
      have opposite : (-(-(places - 1 : Nat) : Int)).toNat = places - 1 := by omega
      rw [if_pos exact, nonpositive, opposite, Nat.pow_zero, Nat.mul_one]
      exact exact
    · have nonpositive : (-(places : Int)).toNat = 0 := by omega
      have opposite : (-(-(places : Int))).toNat = places := by omega
      have quotient : denominator / number < 10 ^ places := found ▸ lt_pow_digitCount _
      rw [if_neg exact, nonpositive, opposite, Nat.pow_zero, Nat.mul_one]
      exact Nat.le_of_lt ((Nat.div_lt_iff_lt_mul positive).1 quotient |>.trans_eq
        (Nat.mul_comm _ _))

/-! ## Grids -/

namespace Interval

variable {interval : Interval} {tie : Tie} {exponent : Int}

theorem onGrid_pos {digits : Nat} (found : interval.onGrid tie exponent = some digits) :
    0 < digits := by
  unfold onGrid at found
  dsimp only at found
  split at found
  · next lower _ =>
      have positive := of_decide_eq_true (Bool.and_eq_true_iff.1 lower).1
      cases tie with
      | toEven => grind
      | up => grind
  · next lower _ =>
      have positive := of_decide_eq_true (Bool.and_eq_true_iff.1 lower).1
      cases found
      exact positive
  · cases found
    exact Nat.succ_pos _
  · cases found

theorem contains_of_between {number denominator : Nat}
    (lower : interval.low * denominator < number * interval.denominator)
    (upper : number * interval.denominator < interval.high * denominator) :
    interval.contains number denominator = true := by
  unfold contains
  dsimp only
  split_ifs
  · rw [Bool.and_eq_true_iff]
    exact ⟨decide_eq_true (Nat.le_of_lt lower), decide_eq_true (Nat.le_of_lt upper)⟩
  · rw [Bool.and_eq_true_iff]
    exact ⟨decide_eq_true lower, decide_eq_true upper⟩

/-- Above the middle lies the next multiple of a spacing that is small enough. -/
theorem contains_above {unit part : Nat} (middle : interval.low ≤ interval.middle)
    (spacing : 0 < interval.denominator * unit)
    (fine : interval.middle * part + interval.denominator * unit < interval.high * part) :
    interval.contains ((interval.middle * part / (interval.denominator * unit) + 1) * unit)
      part = true := by
  have above := Nat.lt_mul_div_succ (interval.middle * part) spacing
  have below := Nat.mul_div_le (interval.middle * part) (interval.denominator * unit)
  generalize interval.middle * part / (interval.denominator * unit) = quotient at above below ⊢
  have here : (quotient + 1) * unit * interval.denominator =
      interval.denominator * unit * (quotient + 1) := by ring
  have next : interval.denominator * unit * (quotient + 1) =
      interval.denominator * unit * quotient + interval.denominator * unit := by ring
  apply contains_of_between
  · rw [here]
    exact Nat.lt_of_le_of_lt (Nat.mul_le_mul_right part middle) above
  · omega

/-- On a grid finer than the upper half of the interval, the neighbour above the
middle lies in the interval. -/
theorem exists_onGrid (middle : interval.low ≤ interval.middle)
    (divisor : 0 < interval.denominator)
    (fine : interval.middle * 10 ^ (-exponent).toNat + interval.denominator * 10 ^ exponent.toNat <
      interval.high * 10 ^ (-exponent).toNat) :
    ∃ digits, interval.onGrid tie exponent = some digits := by
  have spacing : 0 < interval.denominator * 10 ^ exponent.toNat :=
    Nat.mul_pos divisor (Nat.pow_pos (by decide))
  have holds := contains_above middle spacing fine
  unfold onGrid
  simp only [Nat.pow_eq, holds]
  split
  · cases tie with
    | toEven => split_ifs <;> exact ⟨_, rfl⟩
    | up => split_ifs <;> exact ⟨_, rfl⟩
  · next impossible => cases impossible
  · exact ⟨_, rfl⟩
  · next impossible => cases impossible

/-- A search that reaches a fine enough grid finds digits. -/
theorem search_digits_pos {grids finer : Nat} (reached : finer < grids)
    (succeeds : ∃ digits, interval.onGrid tie (exponent - finer) = some digits) :
    0 < (interval.search tie grids exponent).digits := by
  induction grids generalizing exponent finer with
  | zero => cases reached
  | succ grids inductionHypothesis =>
      rw [search]
      split
      · next digits found => exact onGrid_pos found
      · next failed =>
          cases finer with
          | zero =>
              obtain ⟨digits, found⟩ := succeeds
              rw [Int.natCast_zero, Int.sub_zero] at found
              rw [found] at failed
              cases failed
          | succ finer =>
              apply inductionHypothesis (Nat.lt_of_succ_lt_succ reached)
              rwa [Int.sub_sub, Int.add_comm 1, ← Int.natCast_succ]

end Interval

/-! ## Doubles -/

namespace Binary

theorem eq_of_toBits {x y : Float} (same : x.toBits = y.toBits) : x = y := by
  obtain ⟨⟨bits, valid⟩⟩ := x
  obtain ⟨⟨others, _⟩⟩ := y
  change bits = others at same
  subst same
  rfl

theorem fraction_ofFloat_lt (x : Float) : (ofFloat x).fraction < 2 * hiddenBit := by
  have mantissa : x.toBits.toNat % hiddenBit < hiddenBit := Nat.mod_lt _ (by decide)
  unfold ofFloat
  dsimp only
  split_ifs
  · dsimp only
    omega
  · dsimp only
    omega

theorem fraction_ofFloat_pos {x : Float} (nonzero : (x == 0) = false) :
    0 < (ofFloat x).fraction := by
  apply Nat.pos_of_ne_zero
  intro zero
  have magnitude : x.toBits.toNat % 0x8000000000000000 = 0 := by
    unfold ofFloat hiddenBit at zero
    dsimp only at zero
    split_ifs at zero
    · dsimp only at zero
      omega
    · dsimp only at zero
      omega
  have size := x.toBits.toNat_lt_size
  simp only [UInt64.size] at size
  have zeros : x.toBits.toNat = 0 ∨ x.toBits.toNat = 0x8000000000000000 := by omega
  rcases zeros with bits | bits
  · have same : x = 0 := eq_of_toBits (UInt64.toNat.inj (bits.trans (by decide)))
    subst same
    exact absurd nonzero (by decide)
  · have same : x = -0 := eq_of_toBits (UInt64.toNat.inj (bits.trans (by decide)))
    subst same
    exact absurd nonzero (by decide)

/-- Seventeen grids below the leading exponent the spacing is finer than half the
gap between neighbouring doubles. -/
theorem fine_interval {x : Binary} (positive : 0 < x.fraction)
    (bounded : x.fraction < 2 * hiddenBit) {leading : Int}
    (leads : x.interval.denominator * 10 ^ leading.toNat ≤
      x.interval.middle * 10 ^ (-leading).toNat) :
    x.interval.middle * 10 ^ (-(leading - 17)).toNat +
        x.interval.denominator * 10 ^ (leading - 17).toNat <
      x.interval.high * 10 ^ (-(leading - 17)).toNat := by
  have powers : 10 ^ (leading - 17).toNat * 10 ^ (-leading).toNat * 10 ^ 17 =
      10 ^ (-(leading - 17)).toNat * 10 ^ leading.toNat := by
    rw [← Nat.pow_add, ← Nat.pow_add, ← Nat.pow_add]
    congr 1
    omega
  have parts : 0 < 10 ^ (-(leading - 17)).toNat := Nat.pow_pos (by decide)
  have scale : 0 < 10 ^ (-leading).toNat := Nat.pow_pos (by decide)
  have positiveUp : 0 < Nat.pow 2 (x.scale - 2).toNat := Nat.pow_pos (by decide)
  simp only [interval] at leads ⊢
  generalize 10 ^ (-(leading - 17)).toNat = part at powers parts ⊢
  generalize 10 ^ (leading - 17).toNat = unit at powers ⊢
  generalize 10 ^ (-leading).toNat = smaller at powers scale leads
  generalize 10 ^ leading.toNat = larger at powers leads
  generalize Nat.pow 2 (x.scale - 2).toNat = up at positiveUp leads ⊢
  generalize Nat.pow 2 (-(x.scale - 2)).toNat = denominator at leads ⊢
  have scaled : denominator * unit * 10 ^ 17 ≤ 4 * x.fraction * up * part := by
    apply Nat.le_of_mul_le_mul_right _ scale
    calc
      denominator * unit * 10 ^ 17 * smaller = part * (denominator * larger) := by
        rw [Nat.mul_left_comm, ← powers]
        ring
      _ ≤ part * (4 * x.fraction * up * smaller) := Nat.mul_le_mul_left part leads
      _ = 4 * x.fraction * up * part * smaller := by ring
  have spacing : denominator * unit < 2 * (up * part) := by
    apply Nat.lt_of_mul_lt_mul_right (a := 10 ^ 17)
    calc
      denominator * unit * 10 ^ 17 ≤ 4 * x.fraction * (up * part) := by
        rw [← Nat.mul_assoc]
        exact scaled
      _ < 2 * 10 ^ 17 * (up * part) := by
        apply Nat.mul_lt_mul_of_pos_right _ (Nat.mul_pos positiveUp parts)
        unfold hiddenBit at bounded
        omega
      _ = 2 * (up * part) * 10 ^ 17 := by ring
  calc
    4 * x.fraction * up * part + denominator * unit <
        4 * x.fraction * up * part + 2 * (up * part) := Nat.add_lt_add_left spacing _
    _ = (4 * x.fraction + 2) * up * part := by ring

end Binary

/-- The decimal that names a double other than zero has digits. -/
theorem shortest_digits_pos (tie : Tie) {x : Float} (nonzero : (x == 0) = false) :
    0 < (shortest tie x).digits := by
  have positive := Binary.fraction_ofFloat_pos nonzero
  have divisor : 0 < (Binary.ofFloat x).interval.denominator := Nat.pow_pos (by decide)
  have unit : 0 < Nat.pow 2 ((Binary.ofFloat x).scale - 2).toNat := Nat.pow_pos (by decide)
  have middle : 0 < (Binary.ofFloat x).interval.middle :=
    Nat.mul_pos (Nat.mul_pos (by decide) positive) unit
  have low : (Binary.ofFloat x).interval.low ≤ (Binary.ofFloat x).interval.middle :=
    Nat.mul_le_mul_right _ (Nat.sub_le _ _)
  have fine := Binary.fine_interval positive (Binary.fraction_ofFloat_lt x)
    (leadingExponent_le middle divisor)
  have reached : 17 < 18 := by decide
  exact Interval.search_digits_pos reached (Interval.exists_onGrid low divisor fine)

/-! ## Layouts -/

/-- Digits that begin with another one than zero. -/
structure Significant (digits : List Char) : Prop where
  all : ∀ c ∈ digits, c.isDigit = true
  nonempty : digits ≠ []
  first : digits.head? ≠ some '0'

variable {digits rest : List Char}

theorem Significant.toDigits (significant : Significant digits) : Json.Digits digits where
  all := significant.all
  nonempty := significant.nonempty
  single := fun zero => absurd zero significant.first

theorem Significant.append (significant : Significant digits)
    (all : ∀ c ∈ rest, c.isDigit = true) : Significant (digits ++ rest) where
  all := fun c listed => (List.mem_append.1 listed).elim (significant.all c) (all c)
  nonempty := List.append_ne_nil_of_left_ne_nil significant.nonempty rest
  first := by
    rw [List.head?_append_of_ne_nil digits significant.nonempty]
    exact significant.first

theorem Significant.of_prefix (significant : Significant digits) (leads : rest <+: digits)
    (nonempty : rest ≠ []) : Significant rest where
  all := fun c listed => significant.all c (leads.subset listed)
  nonempty := nonempty
  first := by
    obtain ⟨more, rfl⟩ := leads
    have first := significant.first
    rwa [List.head?_append_of_ne_nil rest nonempty] at first

theorem significant_toDigits {n : Nat} (positive : 0 < n) : Significant (Nat.toDigits 10 n) where
  all := fun _ digit => isDigit_of_mem_toDigits digit
  nonempty := Nat.toDigits_ne_nil
  first := fun zero => Nat.ne_of_gt positive (eq_zero_of_head?_toDigits zero)

/-- Without its last zeros a number still has digits. -/
theorem Significant.rdropWhile (significant : Significant digits) :
    Significant (digits.rdropWhile (· = '0')) := by
  apply significant.of_prefix (List.rdropWhile_prefix _ _)
  intro empty
  have zeros := List.rdropWhile_eq_nil_iff.1 empty
  cases digits with
  | nil => exact significant.nonempty rfl
  | cons c digits =>
      exact significant.first (congrArg some (of_decide_eq_true (zeros c List.mem_cons_self)))

theorem isDigit_of_mem_replicate {count : Nat} {c : Char} (listed : c ∈ List.replicate count '0') :
    c.isDigit = true := by
  rw [List.eq_of_mem_replicate listed]
  rfl

/-- A text that is read as a number to its end, with a minus in front or without. -/
def Numeral (text : List Char) : Prop :=
  Json.unsigned text = (false, text) ∧
    ∀ negative, ∃ n, Json.scanUnsigned negative text = .ok (n, [])

theorem scanFraction_point (all : ∀ c ∈ digits, c.isDigit = true) (nonempty : digits ≠ [])
    (stops : Stops Char.isDigit rest) :
    Json.scanFraction ('.' :: digits ++ rest) = .ok (some digits, rest) := by
  have empty : digits.isEmpty = false := List.isEmpty_eq_false_iff.2 nonempty
  rw [List.cons_append]
  simp only [Json.scanFraction, takeWhile_of_all all stops, dropWhile_of_all all stops, empty,
    Bool.false_eq_true, if_false]

theorem numeral_point (whole : Json.Digits digits) (all : ∀ c ∈ rest, c.isDigit = true)
    (nonempty : rest ≠ []) : Numeral (digits ++ '.' :: rest) := by
  have point := scanFraction_point all nonempty (stops_nil Char.isDigit)
  rw [List.append_nil] at point
  exact ⟨whole.unsigned, fun negative => ⟨_, whole.scanUnsigned (stops_cons rfl) point rfl⟩⟩

theorem isDigit_of_mem_zero : ∀ c ∈ ['0'], c.isDigit = true := by
  intro c listed
  rw [List.mem_singleton.1 listed]
  rfl

theorem numeral_positionally (significant : Significant digits) (exponent : Int) :
    Numeral (positionally ".0" digits exponent) := by
  unfold positionally
  dsimp only
  split_ifs with whole inside
  · exact numeral_point
      (significant.append fun _ listed => isDigit_of_mem_replicate listed).toDigits
      isDigit_of_mem_zero (List.cons_ne_nil _ _)
  · apply numeral_point
    · apply (significant.of_prefix (List.take_prefix _ _) _).toDigits
      intro empty
      rcases List.take_eq_nil_iff.1 empty with none | none
      · omega
      · exact significant.nonempty none
    · intro c listed
      exact significant.all c (List.mem_of_mem_drop listed)
    · intro empty
      rw [List.drop_eq_nil_iff] at empty
      omega
  · apply @numeral_point ['0']
    · exact Json.digits_toDigits 0
    · intro c listed
      exact (List.mem_append.1 listed).elim isDigit_of_mem_replicate (significant.all c)
    · exact List.append_ne_nil_of_right_ne_nil _ significant.nonempty

theorem scanExponent_written (leading : Int) :
    ∃ exponent, Json.scanExponent ('e' :: (if leading < 0 then '-' else '+') ::
      Nat.toDigits 10 leading.natAbs) = .ok (some exponent, []) := by
  have written := Json.digits_toDigits leading.natAbs
  generalize Nat.toDigits 10 leading.natAbs = digits at written ⊢
  have empty : digits.isEmpty = false := List.isEmpty_eq_false_iff.2 written.nonempty
  have signed : ∃ negative, Decimal.signed ((if leading < 0 then '-' else '+') :: digits) =
      (negative, digits) := by
    split_ifs
    · exact ⟨true, rfl⟩
    · exact ⟨false, rfl⟩
  obtain ⟨negative, signed⟩ := signed
  simp only [Json.scanExponent, decide_true, Bool.true_or, if_true, signed,
    List.takeWhile_eq_self_iff.2 written.all, List.dropWhile_eq_nil_iff.2 written.all, empty,
    Bool.false_eq_true, if_false]
  exact ⟨_, rfl⟩

theorem numeral_scientifically (significant : Significant digits) (leading : Int) :
    Numeral (scientifically digits leading) := by
  obtain ⟨exponent, scanned⟩ := scanExponent_written leading
  unfold scientifically
  generalize (if leading < 0 then '-' else '+') :: Nat.toDigits 10 leading.natAbs = tail at scanned ⊢
  cases digits with
  | nil => exact absurd rfl significant.nonempty
  | cons first digits =>
      have leads : [first] <+: first :: digits := ⟨digits, rfl⟩
      have whole : Json.Digits [first] :=
        (significant.of_prefix leads (List.cons_ne_nil first [])).toDigits
      cases digits with
      | nil =>
          exact ⟨whole.unsigned, fun negative => ⟨_, whole.scanUnsigned (stops_cons rfl) rfl scanned⟩⟩
      | cons second digits =>
          have point : Json.scanFraction ('.' :: (second :: digits) ++ 'e' :: tail) =
              .ok (some (second :: digits), 'e' :: tail) :=
            scanFraction_point
              (fun c listed => significant.all c (List.mem_cons_of_mem first listed))
              (List.cons_ne_nil second digits) (stops_cons rfl)
          exact ⟨whole.unsigned, fun negative =>
            ⟨_, whole.scanUnsigned (stops_cons rfl) point scanned⟩⟩

theorem numeral_decimal {number : Decimal} (positive : 0 < number.digits) :
    Numeral (Layout.json.decimal number) := by
  have significant := (significant_toDigits positive).rdropWhile
  unfold Layout.decimal
  dsimp only
  split_ifs
  · exact numeral_positionally significant _
  · exact numeral_scientifically significant _

theorem isNaN_and_isInf_of_isFinite {x : Float} (finite : x.isFinite = true) :
    x.isNaN = false ∧ x.isInf = false := by
  change x.toModel.unpack.isFinite = true at finite
  change x.toModel.unpack.isNaN = false ∧ x.toModel.unpack.isInf = false
  generalize x.toModel.unpack = unpacked at finite ⊢
  cases unpacked with
  | notANumber | infinity => cases finite
  | zero | finite => exact ⟨rfl, rfl⟩

/-- A finite double is written as a number with a minus in front or without. -/
theorem exists_numeral {x : Float} (finite : x.isFinite = true) :
    ∃ text, Numeral text ∧
      ((Layout.json.write x).toList = text ∨ (Layout.json.write x).toList = '-' :: text) := by
  obtain ⟨number, bounded⟩ := isNaN_and_isInf_of_isFinite finite
  have signs : ∀ text : List Char,
      ((if x.toBits < 0x8000000000000000 then "" else "-") ++ String.ofList text).toList = text ∨
      ((if x.toBits < 0x8000000000000000 then "" else "-") ++ String.ofList text).toList =
        '-' :: text := by
    intro text
    split_ifs
    · left
      simp only [String.toList_append, String.toList_ofList, String.toList_empty, List.nil_append]
    · right
      simp only [String.toList_append, String.toList_ofList]
      rfl
  unfold Layout.write
  simp only [number, bounded, Bool.false_eq_true, if_false]
  by_cases zero : (x == 0) = true
  · have text : "0" ++ Layout.json.wholeEnd = String.ofList ['0', '.', '0'] := rfl
    have numeral : Numeral ['0', '.', '0'] :=
      numeral_point (Json.digits_toDigits 0) isDigit_of_mem_zero (List.cons_ne_nil _ _)
    rw [if_pos zero, String.append_assoc, text]
    exact ⟨_, numeral, signs _⟩
  · rw [if_neg zero]
    exact ⟨_, numeral_decimal (shortest_digits_pos _ (Bool.eq_false_of_not_eq_true zero)), signs _⟩

end Decimal

namespace Number

/-- Every number is read from its text to the end, though not always as itself. -/
theorem exists_scanNumber_write (n : Number) : ∃ m, Json.scanNumber n.write = .ok (m, []) := by
  cases n with
  | natural n => exact ⟨_, Json.scanNumber_natural n⟩
  | negative k => exact ⟨_, Json.scanNumber_negative k⟩
  | double x finite =>
      obtain ⟨text, ⟨unsigned, scanned⟩, same | same⟩ := Decimal.exists_numeral finite
      · rw [write, same, Json.scanNumber_eq, unsigned]
        exact scanned false
      · rw [write, same, Json.scanNumber_eq]
        exact scanned true

/-- What a number is read as from its own text: none when it is beyond the range
of doubles. -/
def reread (n : Number) : Option Number :=
  match Json.scanNumber n.write with
  | .ok (m, _) => m
  | .error _ => none

theorem scanNumber_write (n : Number) : Json.scanNumber n.write = .ok (n.reread, []) := by
  obtain ⟨m, scanned⟩ := exists_scanNumber_write n
  rw [reread, scanned]

@[simp] theorem reread_natural (n : UInt64) : (natural n).reread = some (natural n) := by
  rw [reread, Json.scanNumber_natural]

end Number

end Gradebook
