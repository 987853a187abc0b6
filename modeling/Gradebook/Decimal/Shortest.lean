namespace Gradebook

/-!
# The fewest digits that name a double

A finite double is a whole number of units `2 ^ q`, and every real number close
enough to it rounds to it.  `Decimal.shortest` finds the decimal with the fewest
digits among those reals, and of those with that many digits the nearest one.
All of it is exact arithmetic on natural numbers.
-/

/-- The decimal number `digits * 10 ^ exponent`. -/
structure Decimal where
  digits : Nat
  exponent : Int
deriving DecidableEq

namespace Decimal

/-- Which of two decimals is taken when a double lies exactly in the middle. -/
inductive Tie
  | toEven
  | up
deriving DecidableEq

/-- A positive double as `fraction * 2 ^ scale`.  It is `narrow` when the next
double below is only half as far away as the one above. -/
structure Binary where
  fraction : Nat
  scale : Int
  narrow : Bool

/-- The bit in front of the mantissa, `2 ^ 52`, which a double does not store. -/
def hiddenBit : Nat := 0x10000000000000

/-- Take a double apart.  The sign is left out; the result is meaningful for
finite doubles other than zero. -/
def Binary.ofFloat (x : Float) : Binary :=
  let bits := x.toBits.toNat
  let field : Nat := bits / hiddenBit % 0x800
  let mantissa := bits % hiddenBit
  if field = 0 then ⟨mantissa, -1074, false⟩
  else ⟨hiddenBit + mantissa, (field : Int) - 1075, mantissa == 0 && field != 1⟩

/-- The reals that round to a double, as natural numbers over one common
denominator: the lower end, the double itself and the upper end.  The ends
belong to it when the fraction is even. -/
structure Interval where
  low : Nat
  middle : Nat
  high : Nat
  denominator : Nat
  closed : Bool

/-- The interval around a double.  Quarters of its unit suffice for the ends. -/
def Binary.interval (x : Binary) : Interval :=
  let scale := x.scale - 2
  let up := Nat.pow 2 scale.toNat
  ⟨(4 * x.fraction - if x.narrow then 1 else 2) * up, 4 * x.fraction * up,
    (4 * x.fraction + 2) * up, Nat.pow 2 (-scale).toNat, x.fraction % 2 = 0⟩

/-- Whether the real `number / denominator` rounds to the interval's double. -/
def Interval.contains (interval : Interval) (number denominator : Nat) : Bool :=
  let here := number * interval.denominator
  let low := interval.low * denominator
  let high := interval.high * denominator
  if interval.closed then low ≤ here && here ≤ high else low < here && here < high

/-- The number of decimal digits of a positive number. -/
def digitCount (n : Nat) : Nat :=
  (Nat.toDigits 10 n).length

/-- The exponent of the leading decimal digit of `number / denominator`, both
positive. -/
def leadingExponent (number denominator : Nat) : Int :=
  if denominator ≤ number then digitCount (number / denominator) - 1
  else
    let places := digitCount (denominator / number)
    if denominator ≤ number * Nat.pow 10 (places - 1) then -(places - 1 : Nat) else -places

/-- The decimal with the given exponent next to the middle of the interval, if
one of the two neighbours there lies in the interval; the nearer one is taken. -/
def Interval.onGrid (interval : Interval) (tie : Tie) (exponent : Int) : Option Nat :=
  -- `unit / part` is the spacing of the grid
  let unit := Nat.pow 10 exponent.toNat
  let part := Nat.pow 10 (-exponent).toNat
  let below := interval.middle * part / (interval.denominator * unit)
  let above := below + 1
  let holds n := interval.contains (n * unit) part
  let twice := 2 * interval.middle * part
  let halfway := (2 * below + 1) * (interval.denominator * unit)
  match decide (0 < below) && holds below, holds above with
  | true, true =>
    if twice < halfway then some below
    else if halfway < twice then some above
    else match tie with
      | .up => some above
      | .toEven => some (if below % 2 = 0 then below else above)
  | true, false => some below
  | false, true => some above
  | false, false => none

/-- Try grids of finer and finer spacing; seventeen digits always suffice. -/
def Interval.search (interval : Interval) (tie : Tie) : Nat → Int → Decimal
  | 0, exponent => ⟨0, exponent⟩
  | grids + 1, exponent =>
    match interval.onGrid tie exponent with
    | some digits => ⟨digits, exponent⟩
    | none => interval.search tie grids (exponent - 1)

/-- The decimal with the fewest digits that rounds to a finite double other
than zero; its sign is left out. -/
def shortest (tie : Tie) (x : Float) : Decimal :=
  let interval := (Binary.ofFloat x).interval
  interval.search tie 18 (leadingExponent interval.middle interval.denominator)

end Decimal

end Gradebook
