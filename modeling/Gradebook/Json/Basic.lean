import Gradebook.Dict

namespace Gradebook

/-!
# JSON values

Numbers keep three kinds apart: natural numbers and negative integers of 64
bits, and finite doubles.  The types leave one form for each number of a kind,
so equality of values is equality of data.

An object is a list of members.  `Json.Canonical` says that at every level the
keys increase strictly; then no key repeats, and the order carries no
information.
-/

/-- How many negative integers 64 bits hold: `2 ^ 63`. -/
abbrev Number.negatives : Nat := 0x8000000000000000

/-- A number of a JSON document. -/
inductive Number
  /-- A natural number below `2 ^ 64`. -/
  | natural (n : UInt64)
  /-- The negative integer `-(k + 1)`, at least `-2 ^ 63`. -/
  | negative (k : Fin Number.negatives)
  /-- A finite double, also when its value is whole. -/
  | double (x : Float) (finite : x.isFinite = true)
deriving DecidableEq

namespace Number

/-- The number as a double, rounded where 53 bits do not hold it. -/
def toFloat : Number → Float
  | .natural n => n.toFloat
  | .negative k => -(k.val + 1).toUInt64.toFloat
  | .double x _ => x

/-- A finite double as a number. -/
def ofFloat? (x : Float) : Option Number :=
  if h : x.isFinite = true then some (.double x h) else none

end Number

/-- A JSON value. -/
inductive Json
  | null
  | bool (b : Bool)
  | number (n : Number)
  | string (s : String)
  | array (items : List Json)
  | object (members : List (String × Json))

namespace Json

instance : Inhabited Json := ⟨.null⟩

/-! ## Views -/

/-- The member of an object under a key; other values have none. -/
def member? : Json → String → Option Json
  | .object members, key => members.lookup key
  | _, _ => none

/-- A truth value; other values are none. -/
def bool? : Json → Option Bool
  | .bool b => some b
  | _ => none

/-- A text; other values are none. -/
def string? : Json → Option String
  | .string s => some s
  | _ => none

/-- A number of any kind, as a double. -/
def float? : Json → Option Float
  | .number n => some n.toFloat
  | _ => none

/-- A number that is natural by kind; a double never is. -/
def natural? : Json → Option UInt64
  | .number (.natural n) => some n
  | _ => none

/-! ## Building values -/

/-- The double as a number, or null where it is not finite. -/
def ofFloat (x : Float) : Json :=
  match Number.ofFloat? x with
  | some n => .number n
  | none => .null

/-- A value that may be missing; a missing one is null. -/
def ofOption {α : Type} (write : α → Json) : Option α → Json
  | some x => write x
  | none => .null

/-- The object of a dictionary. -/
def ofDict (dict : Dict Json) : Json :=
  .object dict.entries

/-! ## Canonical values -/

mutual

/-- Every object inside the value lists its keys in strictly increasing
order. -/
def Canonical : Json → Prop
  | .array items => CanonicalItems items
  | .object members =>
    (members.map Prod.fst).Pairwise (· < ·) ∧ CanonicalMembers members
  | _ => True

/-- All items are canonical. -/
def CanonicalItems : List Json → Prop
  | [] => True
  | item :: rest => Canonical item ∧ CanonicalItems rest

/-- All member values are canonical. -/
def CanonicalMembers : List (String × Json) → Prop
  | [] => True
  | (_, value) :: rest => Canonical value ∧ CanonicalMembers rest

end

mutual

/-- Sort the members of every object by key and keep the last of several
members with one key. -/
def canonical : Json → Json
  | .array items => .array (canonicalItems items)
  | .object members => .object (Dict.ofList (canonicalMembers members)).entries
  | other => other

/-- Apply `canonical` to all items. -/
def canonicalItems : List Json → List Json
  | [] => []
  | item :: rest => canonical item :: canonicalItems rest

/-- Apply `canonical` to all member values; the keys stay in place. -/
def canonicalMembers : List (String × Json) → List (String × Json)
  | [] => []
  | (key, value) :: rest => (key, canonical value) :: canonicalMembers rest

end

end Json

end Gradebook
