import Gradebook.Json.Reader

namespace Gradebook

/-!
# Values that are kept

What a reader does not interpret it keeps as a value.  A value may be embedded:
an object whose first key is `Json.embeddingKey` is read as the value that the
text under this key holds.  First is what stands first, so the key has no meaning
behind another one.  A text that is no JSON makes the object one of the wrong
shape.

A record sets aside the members that it does not know.  They are checked where
they stand and kept once the record has been read to its end, so what is wrong
with an embedded text comes after all else.
-/

namespace Json

/-! ## Setting aside -/

mutual

/-- Check that a document can be kept, but for texts embedded in it. -/
def check (origin : Origin) : Document → Except ReadError Unit
  | .array items ending => do
    let inner ← origin.enter
    checkItems inner items
    ending.finish
  | .object members ending => do
    let inner ← origin.enter
    checkMembers inner members
    ending.finish
  | document => do
    let _ ← found document

/-- Check all items. -/
def checkItems (origin : Origin) : List Document → Except ReadError Unit
  | [] => .ok ()
  | item :: rest => do
    check origin item
    checkItems origin rest

/-- Check all members. -/
def checkMembers (origin : Origin) : List (Key × Document) → Except ReadError Unit
  | [] => .ok ()
  | (key, value) :: rest => do
    let _ ← key.text
    check origin value
    checkMembers origin rest

end

/-! ## Embedded values -/

/-- The key that marks an object as standing for the value that its text
holds. -/
def embeddingKey : String := "$serde_json::private::RawValue"

/-- The text that stands for a value, if the members are those of such an object,
and the members behind it. -/
def embedded? : List (Key × Document) →
    Except ReadError (Option (String × List (Key × Document)))
  | [] => .ok none
  | (key, value) :: rest => do
    let name ← key.text
    if name = embeddingKey then
      let text ← textReader "raw value" .value value
      return some (text, rest)
    else return none

mutual

/-- Keep a document as a canonical value, given how the value of an embedded text
is read. -/
def keepWith (readEmbedded : String → Except ReadError Json) (origin : Origin) :
    Document → Except ReadError Json
  | .null => .ok .null
  | .bool b => .ok (.bool b)
  | .number (some n) => .ok (.number n)
  | .number none => .error (.damaged (.malformed .range))
  | .string (.ok s) => .ok (.string s)
  | .string (.error flaw) => .error (.damaged (.malformed flaw))
  | .array items ending => do
    let inner ← origin.enter
    let items ← keepItems readEmbedded inner items
    ending.finish
    return .array items
  | .object members ending => do
    let inner ← origin.enter
    match ← embedded? members with
    | some (text, rest) => do
      let value ← readEmbedded text
      inner.finish rest ending
      return value
    | none => do
      let members ← keepMembers readEmbedded inner members
      ending.finish
      return .object (Dict.ofList members).entries
  | .broken fault => .error (.damaged fault.kept)

/-- Keep all items. -/
def keepItems (readEmbedded : String → Except ReadError Json) (origin : Origin) :
    List Document → Except ReadError (List Json)
  | [] => .ok []
  | item :: rest => do
    let item ← keepWith readEmbedded origin item
    let rest ← keepItems readEmbedded origin rest
    return item :: rest

/-- Keep all members, in the order in which they stand. -/
def keepMembers (readEmbedded : String → Except ReadError Json) (origin : Origin) :
    List (Key × Document) → Except ReadError (List (String × Json))
  | [] => .ok []
  | (key, value) :: rest => do
    let name ← key.text
    let value ← keepWith readEmbedded origin value
    let rest ← keepMembers readEmbedded origin rest
    return (name, value) :: rest

end

/-- The same error, of a text that is embedded in what is read. -/
def ReadError.embedded : ReadError → ReadError
  | .damaged damage => .mismatch (.unreadable damage)
  | .mismatch cause => .mismatch cause

/-- Read an embedded text, in which texts may be embedded again.  Each is shorter
than the text that it stands in, so its length bounds how often that happens. -/
def readEmbedded : Nat → String → Except ReadError Json
  | 0, _ => .error (.mismatch (.unreadable (.malformed .depth)))
  | depth + 1, text =>
    (readText (keepWith (readEmbedded depth)) text).mapError ReadError.embedded

/-- Keep a document as a canonical value, with the values of embedded texts in
place. -/
def keep : Reader Json :=
  keepWith fun text => readEmbedded (text.length + 1) text

end Json

end Gradebook
