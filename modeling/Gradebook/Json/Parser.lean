import Gradebook.Decimal.Reader
import Gradebook.Json.Document
import Gradebook.Text.Hexadecimal

namespace Gradebook

/-!
# From text to documents

`Json.parse` turns a text into the document that it holds.  It never fails: where
the text is no JSON the document has a fault.  Blanks may stand around every
token; what follows the document is reported apart.

The functions work on lists of characters and return what is left of them, or
nothing when a fault ends the reading.  Their fuel is computed from the length
of the text: of any two nested steps one uses at least one character, so what is
left of the fuel always covers what is left of the text.
-/

namespace Json

/-! ## Blanks and words -/

/-- Whether a character may stand around tokens. -/
def isBlank (c : Char) : Bool :=
  c = ' ' || c = '\n' || c = '\t' || c = '\r'

/-- What is left behind leading blanks. -/
def skipBlanks (text : List Char) : List Char :=
  text.dropWhile isBlank

/-- What is left after a word, or how the text fails to hold it. -/
def word : List Char → List Char → Except Damage (List Char)
  | [], text => .ok text
  | _ :: _, [] => .error (.truncated .value)
  | expected :: more, c :: rest =>
    if c = expected then word more rest else .error (.malformed .noWord)

/-! ## Strings -/

/-- The number of bytes that a text takes, counted only as far as four. -/
def hasFourBytes (text : List Char) : Bool :=
  4 ≤ (text.take 4).foldl (fun bytes c => bytes + c.utf8Size) 0

/-- What is wrong where the four digits of a code unit should stand. -/
def noCodeUnit (text : List Char) : Damage :=
  if hasFourBytes text then .malformed .escape else .truncated .string

/-- Read the four digits of a code unit. -/
def codeUnit : List Char → Except Damage (Nat × List Char)
  | text@(a :: b :: c :: d :: rest) =>
    match Text.hexDigit? a, Text.hexDigit? b, Text.hexDigit? c, Text.hexDigit? d with
    | some a, some b, some c, some d => .ok (((a * 16 + b) * 16 + c) * 16 + d, rest)
    | _, _, _, _ => .error (noCodeUnit text)
  | text => .error (noCodeUnit text)

/-- The character that a one-letter escape stands for. -/
def escape? : Char → Option Char
  | '"' => some '"'
  | '\\' => some '\\'
  | '/' => some '/'
  | 'b' => some '\x08'
  | 'f' => some '\x0c'
  | 'n' => some '\n'
  | 'r' => some '\r'
  | 't' => some '\t'
  | _ => none

/-- Whether a code unit is the first half of a surrogate pair. -/
def isLeading (unit : Nat) : Bool := 0xD800 ≤ unit && unit ≤ 0xDBFF

/-- Whether a code unit is the second half of a surrogate pair. -/
def isTrailing (unit : Nat) : Bool := 0xDC00 ≤ unit && unit ≤ 0xDFFF

/-- The character that two surrogates stand for. -/
def paired (leading trailing : Nat) : Char :=
  Char.ofNat (0x10000 + (leading - 0xD800) * 0x400 + (trailing - 0xDC00))

/-- Read the second half of a surrogate pair. -/
def trailingUnit : List Char → Except Damage (Nat × List Char)
  | [] => .error (.truncated .string)
  | '\\' :: [] => .error (.truncated .string)
  | '\\' :: 'u' :: rest => do
    let (unit, rest) ← codeUnit rest
    if isTrailing unit then return (unit, rest) else throw (.malformed .surrogate)
  | _ => .error (.malformed .unpaired)

/-- Read a string behind its opening quote.  A `strict` reading refuses
surrogates that are not paired, the other one lets them stand for nothing. -/
def stringBody (strict : Bool) : Nat → List Char → Except Damage (List Char × List Char)
  | 0, _ => .error (.truncated .string)
  | _ + 1, [] => .error (.truncated .string)
  | fuel + 1, c :: rest =>
    if c = '"' then .ok ([], rest)
    else if c = '\\' then
      match rest with
      | [] => .error (.truncated .string)
      | mark :: rest =>
        if mark = 'u' then do
          let (unit, rest) ← codeUnit rest
          if strict && isTrailing unit then throw (.malformed .surrogate)
          else if strict && isLeading unit then do
            let (second, rest) ← trailingUnit rest
            let (more, rest) ← stringBody strict fuel rest
            return (paired unit second :: more, rest)
          else do
            let (more, rest) ← stringBody strict fuel rest
            return (Char.ofNat unit :: more, rest)
        else
          match escape? mark with
          | some c => do
            let (more, rest) ← stringBody strict fuel rest
            return (c :: more, rest)
          | none => .error (.malformed .escape)
    else if c.toNat < 0x20 then .error (.malformed .control)
    else do
      let (more, rest) ← stringBody strict fuel rest
      return (c :: more, rest)

/-- Read a string behind its opening quote: what it stands for and what is
left, or the fault in it. -/
def scanString (fuel : Nat) (text : List Char) :
    Except Fault (Except Flaw String × List Char) :=
  match stringBody true fuel text with
  | .ok (content, rest) => .ok (.ok (String.ofList content), rest)
  | .error kept =>
    match kept, stringBody false fuel text with
    | .malformed flaw, .ok (_, rest) => .ok (.error flaw, rest)
    | .truncated _, .ok _ => .error (.plain kept)
    | _, .error skipped => .error ⟨kept, skipped, kept⟩

/-- A string as it stands behind its opening quote, up to the quote that ends
it. -/
def spelling : List Char → List Char
  | [] => []
  | '"' :: _ => []
  | '\\' :: c :: rest => '\\' :: c :: spelling rest
  | c :: rest => c :: spelling rest

/-! ## Numbers -/

/-- The digits of a number: those that fit into 64 bits as a whole number, and
how many further digits were left out. -/
structure Significand where
  value : UInt64
  dropped : Nat

/-- Append a digit if the result fits into 64 bits. -/
def Significand.push? (n : UInt64) (digit : Char) : Option UInt64 :=
  let next := n.toNat * 10 + (digit.toNat - '0'.toNat)
  if next < UInt64.size then some next.toUInt64 else none

/-- Take in the digits before the point.  Once a digit does not fit, it and all
that follow are left out. -/
def Significand.whole (n : UInt64) : List Char → Significand
  | [] => ⟨n, 0⟩
  | digit :: rest =>
    match push? n digit with
    | some next => whole next rest
    | none => ⟨n, rest.length + 1⟩

/-- Take in the digits behind the point, as far as they fit; the result tells
how many were. -/
def Significand.fraction (n : UInt64) : List Char → UInt64 × Nat
  | [] => (n, 0)
  | digit :: rest =>
    match push? n digit with
    | some next =>
      let (value, count) := fraction next rest
      (value, count + 1)
    | none => (n, 0)

/-- The number that a significand and an exponent make, unless it is out of
range. -/
def double? (negative : Bool) (significand : UInt64) (exponent : Int) : Option Number := do
  let x ← Decimal.scaled significand exponent
  Number.ofFloat? (if negative then -x else x)

/-- The number without point and exponent that has these digits.  Minus zero
and what does not fit into 64 bits is a double. -/
def integer? (negative : Bool) (digits : List Char) : Option Number :=
  let ⟨value, dropped⟩ := Significand.whole 0 digits
  if dropped = 0 then
    if negative then
      if h : 0 < value.toNat ∧ value.toNat ≤ Number.negatives then
        some (.negative ⟨value.toNat - 1, by omega⟩)
      else Number.ofFloat? (-value.toFloat)
    else some (.natural value)
  else double? negative value dropped

/-- Fault of a number that ends too early: at the end of the text only one who
keeps the number waits for more of it. -/
def shortNumber : List Char → Fault
  | [] => ⟨.truncated .value, .malformed .number, .malformed .number⟩
  | _ => .plain (.malformed .number)

/-- Read the exponent of a number, which may be missing. -/
def scanExponent : List Char → Except Fault (Option Int × List Char)
  | mark :: rest =>
    if mark = 'e' || mark = 'E' then
      let (negative, rest) := Decimal.signed rest
      let digits := rest.takeWhile Char.isDigit
      let rest := rest.dropWhile Char.isDigit
      if digits.isEmpty then .error (shortNumber rest)
      else
        let exponent : Int := Decimal.natural digits
        .ok (some (if negative then -exponent else exponent), rest)
    else .ok (none, mark :: rest)
  | [] => .ok (none, [])

/-- Read the fraction of a number, which may be missing. -/
def scanFraction : List Char → Except Fault (Option (List Char) × List Char)
  | '.' :: rest =>
    let digits := rest.takeWhile Char.isDigit
    let rest := rest.dropWhile Char.isDigit
    if digits.isEmpty then .error (shortNumber rest) else .ok (some digits, rest)
  | rest => .ok (none, rest)

/-- Read a number.  The result has no value when it is beyond the range of
doubles. -/
def scanNumber (text : List Char) : Except Fault (Option Number × List Char) := do
  let (negative, text) :=
    match text with
    | '-' :: rest => (true, rest)
    | text => (false, text)
  let digits := text.takeWhile Char.isDigit
  let rest := text.dropWhile Char.isDigit
  if digits.isEmpty then throw (shortNumber rest)
  if digits.head? = some '0' && digits.length ≠ 1 then throw (.plain (.malformed .number))
  let (fraction, rest) ← scanFraction rest
  let (exponent, rest) ← scanExponent rest
  match fraction, exponent with
  | none, none => return (integer? negative digits, rest)
  | _, _ =>
    let ⟨whole, dropped⟩ := Significand.whole 0 digits
    let (value, places) := Significand.fraction whole (fraction.getD [])
    return (double? negative value (dropped - places + exponent.getD 0), rest)

/-! ## Values -/

/-- The document for a word and what is left behind it. -/
def scanWord (expected : String) (document : Document) (text : List Char) :
    Document × Option (List Char) :=
  match word expected.toList text with
  | .ok rest => (document, some rest)
  | .error damage => (.broken ⟨damage, damage, .malformed .noValue⟩, none)

mutual

/-- Read a value. -/
def scanValue : Nat → List Char → Document × Option (List Char)
  | 0, _ => (.broken (.plain (.truncated .value)), none)
  | fuel + 1, text =>
    match skipBlanks text with
    | [] => (.broken (.plain (.truncated .value)), none)
    | c :: rest =>
      if c = '"' then
        match scanString fuel rest with
        | .ok (content, rest) => (.string content, some rest)
        | .error fault => (.broken fault, none)
      else if c = '[' then
        match skipBlanks rest with
        | [] => (.array [] (.broken (.plain (.truncated .list))), none)
        | ']' :: rest => (.array [] .closed, some rest)
        | rest =>
          let (items, ending, rest) := scanItems fuel rest
          (.array items ending, rest)
      else if c = '\x7b' then
        match skipBlanks rest with
        | [] => (.object [] (.keyless (.plain (.truncated .object))), none)
        | '\x7d' :: rest => (.object [] .closed, some rest)
        | rest =>
          let (members, ending, rest) := scanMembers fuel rest
          (.object members ending, rest)
      else if c = 'n' then scanWord "ull" .null rest
      else if c = 't' then scanWord "rue" (.bool true) rest
      else if c = 'f' then scanWord "alse" (.bool false) rest
      else if c = '-' || c.isDigit then
        match scanNumber (c :: rest) with
        | .ok (value, rest) => (.number value, some rest)
        | .error fault => (.broken fault, none)
      else (.broken (.plain (.malformed .noValue)), none)

/-- Read the items of an array from an item on. -/
def scanItems : Nat → List Char → List Document × Ending × Option (List Char)
  | 0, _ => ([], .broken (.plain (.truncated .list)), none)
  | fuel + 1, text =>
    match scanValue fuel text with
    | (item, none) => ([item], .closed, none)
    | (item, some rest) =>
      match skipBlanks rest with
      | [] => ([item], .broken (.plain (.truncated .list)), none)
      | c :: rest =>
        if c = ']' then ([item], .closed, some rest)
        else if c = ',' then
          match skipBlanks rest with
          | ']' :: _ => ([item, .broken (.plain (.malformed .comma))], .closed, none)
          | rest =>
            let (items, ending, rest) := scanItems fuel rest
            (item :: items, ending, rest)
        else ([item], .broken (.plain (.malformed .openList)), none)

/-- Read the members of an object from a key on. -/
def scanMembers : Nat → List Char → List (Key × Document) × Ending × Option (List Char)
  | 0, _ => ([], .broken (.plain (.truncated .object)), none)
  | fuel + 1, text =>
    match skipBlanks text with
    | [] => ([], .keyless (.plain (.truncated .value)), none)
    | c :: rest =>
      if c = '"' then
        match scanString fuel rest with
        | .error fault => ([], .brokenKey fault rest, none)
        | .ok (content, afterKey) =>
          let key : Key := ⟨spelling rest, content⟩
          match skipBlanks afterKey with
          | [] => ([(key, .broken (.plain (.truncated .object)))], .closed, none)
          | colon :: rest =>
            if colon = ':' then
              match scanValue fuel rest with
              | (value, none) => ([(key, value)], .closed, none)
              | (value, some rest) =>
                match skipBlanks rest with
                | [] => ([(key, value)], .broken (.plain (.truncated .object)), none)
                | c :: rest =>
                  if c = '\x7d' then ([(key, value)], .closed, some rest)
                  else if c = ',' then
                    let (members, ending, rest) := scanMembers fuel rest
                    ((key, value) :: members, ending, rest)
                  else ([(key, value)], .broken (.plain (.malformed .openObject)), none)
            else ([(key, .broken (.plain (.malformed .noColon)))], .closed, none)
      else
        ([], .keyless (.plain (.malformed (if c = '\x7d' then .comma else .key))), none)

end

/-- A document and whether anything but blanks follows it in the text. -/
structure Parsed where
  document : Document
  trailing : Bool

/-- Read a text. -/
def parse (text : String) : Parsed :=
  let chars := text.toList
  let (document, rest) := scanValue (2 * chars.length + 2) chars
  ⟨document, match rest with
    | some rest => !(skipBlanks rest).isEmpty
    | none => false⟩

end Json

end Gradebook
