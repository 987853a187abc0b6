namespace Gradebook

/-!
# Reading doubles

`Decimal.ofText` reads a number as a person types it, rounded correctly, and
`Decimal.natural64?` a natural number.
`Decimal.scaled` is the rule for numbers inside JSON documents: the whole number
formed by the digits becomes a double first, and that double is then multiplied
or divided by the power of ten, so the result may be one unit away from the
correctly rounded one.
-/

namespace Decimal

/-- The value of a list of decimal digits. -/
def natural (digits : List Char) : Nat :=
  digits.foldl (fun n digit => 10 * n + (digit.toNat - '0'.toNat)) 0

/-- The double nearest to `significand * 10 ^ exponent`.  Exponents far outside
the range of doubles are answered without forming the power. -/
def nearest (significand : Nat) (exponent : Int) : Float :=
  if significand = 0 then 0
  else
    let leading := (Nat.toDigits 10 significand).length + exponent
    if 400 < leading then 1 / 0
    else if leading < -400 then 0
    else Float.ofScientific significand (exponent < 0) exponent.natAbs

/-- Split a sign off a text; the flag tells whether it is a minus. -/
def signed : List Char → Bool × List Char
  | '-' :: rest => (true, rest)
  | '+' :: rest => (false, rest)
  | text => (false, text)

/-- Read the exponent part of a number, which may be missing. -/
def exponentPart : List Char → Option Int
  | [] => some 0
  | mark :: rest =>
    if mark = 'e' || mark = 'E' then
      let (negative, digits) := signed rest
      if digits.isEmpty || !digits.all Char.isDigit then none
      else some (if negative then -(natural digits : Int) else natural digits)
    else none

/-- Read an unsigned number: digits with at most one point among or beside them
and an optional exponent. -/
def unsigned (text : List Char) : Option Float :=
  let whole := text.takeWhile Char.isDigit
  let (fraction, rest) :=
    match text.dropWhile Char.isDigit with
    | '.' :: rest => (rest.takeWhile Char.isDigit, rest.dropWhile Char.isDigit)
    | rest => ([], rest)
  if whole.isEmpty && fraction.isEmpty then none
  else (exponentPart rest).map fun exponent =>
    nearest (natural (whole ++ fraction)) (exponent - fraction.length)

/-- Read a double: an optional sign, then a number, `inf`, `infinity` or `nan`
in letters of either case. -/
def ofText (text : String) : Option Float :=
  let (negative, rest) := signed text.toList
  let word := String.ofList (rest.map Char.toLower)
  let magnitude :=
    if word = "inf" || word = "infinity" then some (1 / 0)
    else if word = "nan" then some (0 / 0)
    else unsigned rest
  magnitude.map fun x => if negative then -x else x

/-- Read a natural number of 64 bits: digits, which a plus may precede. -/
def natural64? (text : String) : Option UInt64 :=
  let digits :=
    match text.toList with
    | '+' :: rest => rest
    | digits => digits
  if digits.isEmpty || !digits.all Char.isDigit then none
  else if natural digits < UInt64.size then some (natural digits).toUInt64
  else none

/-- Multiply or divide a double by a power of ten, in steps of at most 308
places; `none` when the result is not finite. -/
def scaleBy : Nat → Float → Int → Option Float
  | 0, x, _ => some x
  | steps + 1, x, exponent =>
    if exponent.natAbs ≤ 308 then
      let power := Float.ofScientific 1 false exponent.natAbs
      if exponent < 0 then some (x / power)
      else if (x * power).isInf then none else some (x * power)
    else if x == 0 then some x
    else if 0 ≤ exponent then none
    else scaleBy steps (x / Float.ofScientific 1 false 308) (exponent + 308)

/-- The double of a JSON number: the significand as a double, scaled.  Three
steps reach zero from every significand. -/
def scaled (significand : UInt64) (exponent : Int) : Option Float :=
  scaleBy 4 significand.toFloat exponent

end Decimal

end Gradebook
