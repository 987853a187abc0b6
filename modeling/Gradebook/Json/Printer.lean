import Gradebook.Decimal.Layout
import Gradebook.Json.Basic

namespace Gradebook

/-!
# Writing JSON

`Json.compress` writes a value without blanks, `Json.pretty` with one member a
line and two blanks an indentation.  Members are written in the order in which
the value lists them.
-/

namespace Number

/-- Integers are written in full, doubles with the fewest digits that name
them. -/
def write : Number → List Char
  | .natural n => Nat.toDigits 10 n.toNat
  | .negative k => '-' :: Nat.toDigits 10 (k.val + 1)
  | .double x _ => (Decimal.Layout.json.write x).toList

end Number

namespace Json

/-- Write one character of a string.  Escaped are the quote, the backslash and
the characters below the blank. -/
def writeChar (c : Char) : List Char :=
  if c = '"' then ['\\', '"']
  else if c = '\\' then ['\\', '\\']
  else if c = '\x08' then ['\\', 'b']
  else if c = '\x0c' then ['\\', 'f']
  else if c = '\n' then ['\\', 'n']
  else if c = '\r' then ['\\', 'r']
  else if c = '\t' then ['\\', 't']
  else if c.toNat < 0x20 then
    ['\\', 'u', '0', '0', Nat.digitChar (c.toNat / 16), Nat.digitChar (c.toNat % 16)]
  else [c]

/-- Write a string between quotes. -/
def writeString (s : String) : List Char :=
  '"' :: s.toList.flatMap writeChar ++ ['"']

/-- Write a value that is not an array or object. -/
def writeScalar : Json → List Char
  | .null => "null".toList
  | .bool true => "true".toList
  | .bool false => "false".toList
  | .number n => n.write
  | .string s => writeString s
  | _ => []

mutual

/-- Write a value without blanks. -/
def writeCompact : Json → List Char
  | .array items => '[' :: writeItems items ++ [']']
  | .object members => '\x7b' :: writeMembers members ++ ['\x7d']
  | scalar => writeScalar scalar

/-- Write items with commas between them. -/
def writeItems : List Json → List Char
  | [] => []
  | [item] => writeCompact item
  | item :: rest => writeCompact item ++ ',' :: writeItems rest

/-- Write members with commas between them. -/
def writeMembers : List (String × Json) → List Char
  | [] => []
  | [(key, value)] => writeString key ++ ':' :: writeCompact value
  | (key, value) :: rest =>
    writeString key ++ ':' :: writeCompact value ++ ',' :: writeMembers rest

end

/-- The text of a value, without blanks. -/
def compress (value : Json) : String :=
  String.ofList value.writeCompact

/-- Start a new line at an indentation depth. -/
def newLine (depth : Nat) : List Char :=
  '\n' :: List.replicate (2 * depth) ' '

mutual

/-- Write a value over several lines, its inner lines indented one step deeper
than `depth`. -/
def writePretty (depth : Nat) : Json → List Char
  | .array [] => ['[', ']']
  | .array items =>
    '[' :: newLine (depth + 1) ++ writePrettyItems (depth + 1) items ++ newLine depth ++ [']']
  | .object [] => ['\x7b', '\x7d']
  | .object members =>
    '\x7b' :: newLine (depth + 1) ++ writePrettyMembers (depth + 1) members ++
      newLine depth ++ ['\x7d']
  | scalar => writeScalar scalar

/-- Write items, each on a line of its own. -/
def writePrettyItems (depth : Nat) : List Json → List Char
  | [] => []
  | [item] => writePretty depth item
  | item :: rest => writePretty depth item ++ ',' :: newLine depth ++ writePrettyItems depth rest

/-- Write members, each on a line of its own. -/
def writePrettyMembers (depth : Nat) : List (String × Json) → List Char
  | [] => []
  | [(key, value)] => writeString key ++ ':' :: ' ' :: writePretty depth value
  | (key, value) :: rest =>
    writeString key ++ ':' :: ' ' :: writePretty depth value ++ ',' :: newLine depth ++
      writePrettyMembers depth rest

end

/-- The text of a value, one member a line. -/
def pretty (value : Json) : String :=
  String.ofList (value.writePretty 0)

end Json

end Gradebook
