import Gradebook.Decimal.Shortest

namespace Gradebook

/-!
# Writing doubles

Doubles are written with the fewest digits that name them, in one of two
layouts.  `Layout.plain` never uses an exponent and writes whole numbers
without a point; it serves messages and tables for people.  `Layout.json` keeps
a double apart from an integer by a point or an exponent.
-/

namespace Decimal

/-- How the digits of a double are laid out. -/
structure Layout where
  /-- What a double exactly halfway between two candidates takes. -/
  tie : Tie
  /-- Whether a leading digit with this exponent is written without one. -/
  positional : Int → Bool
  /-- What follows a whole number. -/
  wholeEnd : String
  /-- The texts of the two infinities and of not-a-number. -/
  infinity : String
  negativeInfinity : String
  notANumber : String

/-- The layout for people: always positional, whole numbers bare. -/
def Layout.plain : Layout :=
  ⟨.up, fun _ => true, "", "inf", "-inf", "NaN"⟩

/-- The layout of JSON documents: positional from `1e-5` up to below `1e16`,
always recognisable as a double.  What is not finite has no number. -/
def Layout.json : Layout :=
  ⟨.toEven, fun exponent => -5 ≤ exponent && exponent < 16, ".0", "null", "null", "null"⟩

/-- Write digits with the point after the first, unless there is only one. -/
def pointed : List Char → List Char
  | [] => []
  | [digit] => [digit]
  | digit :: rest => digit :: '.' :: rest

/-- Write digits whose last has the given exponent, without an exponent. -/
def positionally (wholeEnd : String) (digits : List Char) (exponent : Int) : List Char :=
  if 0 ≤ exponent then digits ++ List.replicate exponent.toNat '0' ++ wholeEnd.toList
  else
    let places := (-exponent).toNat
    if places < digits.length then
      digits.take (digits.length - places) ++ '.' :: digits.drop (digits.length - places)
    else '0' :: '.' :: List.replicate (places - digits.length) '0' ++ digits

/-- Write digits as one leading digit, a fraction and the exponent of the
leading digit, whose sign is always written. -/
def scientifically (digits : List Char) (leading : Int) : List Char :=
  pointed digits ++ 'e' :: (if leading < 0 then '-' else '+') :: (Nat.toDigits 10 leading.natAbs)

/-- Write a decimal other than zero. -/
def Layout.decimal (layout : Layout) (number : Decimal) : List Char :=
  let all := Nat.toDigits 10 number.digits
  let digits := (all.reverse.dropWhile (· = '0')).reverse
  let exponent := number.exponent + (all.length - digits.length : Nat)
  let leading := exponent + digits.length - 1
  if layout.positional leading then positionally layout.wholeEnd digits exponent
  else scientifically digits leading

/-- Write any double. -/
def Layout.write (layout : Layout) (x : Float) : String :=
  let sign := if x.toBits < 0x8000000000000000 then "" else "-"
  if x.isNaN then layout.notANumber
  else if x.isInf then if x < 0 then layout.negativeInfinity else layout.infinity
  else if x == 0 then sign ++ "0" ++ layout.wholeEnd
  else sign ++ String.ofList (layout.decimal (shortest layout.tie x))

end Decimal

end Gradebook
