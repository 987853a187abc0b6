import Gradebook.Json.Printer
import Gradebook.Text.Quoted

namespace Gradebook

/-!
# Why a document could not be read

A text may fail to be JSON, by being malformed or by ending too early, or it may
be JSON of the wrong shape.  The wrong shape has a message of its own.  So has
damage, but it is told only where the text is itself a part of JSON, since to its
reader such a part has the wrong shape.
-/

namespace Json

/-- What a text breaks off in. -/
inductive Unfinished
  | list
  | object
  | string
  /-- A value of which nothing, or no end, can be seen. -/
  | value
deriving DecidableEq

/-- What stands in a text where it may not, or which limit is exceeded. -/
inductive Flaw
  | noWord
  | noValue
  | noColon
  /-- An item is followed neither by a comma nor by the end of its list. -/
  | openList
  /-- A member is followed neither by a comma nor by the end of its object. -/
  | openObject
  /-- The last item or member is followed by a comma. -/
  | comma
  | key
  | escape
  | control
  /-- A surrogate stands where its counterpart would have to stand. -/
  | surrogate
  /-- The first half of a surrogate pair has no second half. -/
  | unpaired
  | number
  /-- A number lies beyond the range of doubles. -/
  | range
  /-- Something stands behind the end. -/
  | trailing
  /-- Too many arrays and objects are open at once. -/
  | depth
deriving DecidableEq

/-- What is wrong with a text that is not JSON. -/
inductive Damage
  /-- A character stands where it may not, or a limit is exceeded. -/
  | malformed (flaw : Flaw)
  /-- The text ends before the document does. -/
  | truncated (inside : Unfinished)
deriving DecidableEq

/-- What a reader met instead of the value it expected. -/
inductive Found
  | null
  | bool (b : Bool)
  | number (n : Number)
  | string (s : String)
  | sequence
  | map

/-- Why JSON does not have the expected shape. -/
inductive Mismatch
  | missingField (name : String)
  | duplicateField (name : String)
  | wrongType (found : Found) (expected : String)
  | wrongValue (found : Found) (expected : String)
  | wrongLength (length : Nat) (expected : String)
  | unknownVariant (name : String) (known : List String)
  | noForm (type : String)
  /-- A text that stands for a value is no JSON. -/
  | unreadable (damage : Damage)

/-- Why reading failed. -/
inductive ReadError
  | damaged (damage : Damage)
  | mismatch (mismatch : Mismatch)

/-! ## Messages -/

/-- The message of damage. -/
def Damage.message : Damage → String
  | .truncated .list => "EOF while parsing a list"
  | .truncated .object => "EOF while parsing an object"
  | .truncated .string => "EOF while parsing a string"
  | .truncated .value => "EOF while parsing a value"
  | .malformed .noWord => "expected ident"
  | .malformed .noValue => "expected value"
  | .malformed .noColon => "expected \x60:\x60"
  | .malformed .openList => "expected \x60,\x60 or \x60]\x60"
  | .malformed .openObject => "expected \x60,\x60 or \x60\x7d\x60"
  | .malformed .comma => "trailing comma"
  | .malformed .key => "key must be a string"
  | .malformed .escape => "invalid escape"
  | .malformed .control =>
    "control character (\\u0000-\\u001F) found while parsing a string"
  | .malformed .surrogate => "lone leading surrogate in hex escape"
  | .malformed .unpaired => "unexpected end of hex escape"
  | .malformed .number => "invalid number"
  | .malformed .range => "number out of range"
  | .malformed .trailing => "trailing characters"
  | .malformed .depth => "recursion limit exceeded"

/-- A name between back quotes. -/
def backquoted (name : String) : String :=
  "\x60" ++ name ++ "\x60"

/-- How a message names what was met. -/
def Found.describe : Found → String
  | .null => "null"
  | .bool b => "boolean " ++ backquoted (if b then "true" else "false")
  | .number n =>
    let value := backquoted (String.ofList n.write)
    match n with
    | .double _ _ => "floating point " ++ value
    | _ => "integer " ++ value
  | .string s => "string " ++ Text.quoted s
  | .sequence => "sequence"
  | .map => "map"

/-- How a message lists the variants that would be accepted. -/
def choices : List String → String
  | [] => "there are no variants"
  | [a] => "expected " ++ backquoted a
  | [a, b] => "expected " ++ backquoted a ++ " or " ++ backquoted b
  | names => "expected one of " ++ String.intercalate ", " (names.map backquoted)

/-- The message of a mismatch. -/
def Mismatch.message : Mismatch → String
  | .missingField name => "missing field " ++ backquoted name
  | .duplicateField name => "duplicate field " ++ backquoted name
  | .wrongType found expected =>
    "invalid type: " ++ found.describe ++ ", expected " ++ expected
  | .wrongValue found expected =>
    "invalid value: " ++ found.describe ++ ", expected " ++ expected
  | .wrongLength length expected =>
    "invalid length " ++ toString length ++ ", expected " ++ expected
  | .unknownVariant name known =>
    "unknown variant " ++ backquoted name ++ ", " ++ choices known
  | .noForm type => "data did not match any variant of untagged enum " ++ type
  | .unreadable damage => damage.message

end Json

end Gradebook
