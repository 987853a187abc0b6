import Gradebook.Json.Error

namespace Gradebook

/-!
# Documents as they are met

A document is what a text holds, read from left to right: members in the order
in which they stand, keys that repeat, and the place where the text cannot be
read on.  A reader of some shape walks over the document and stops at the first
thing that is wrong for it, be that a damage of the text or a wrong shape.

A JSON value is a document without damage, so one reader serves both.
-/

namespace Json

/-- A place where the text cannot be read on.  Readers notice different things
there: one that keeps what it reads decodes strings and numbers, one that skips
checks the outline only, and one that wants a name looks no further than the
first character. -/
structure Fault where
  kept : Damage
  skipped : Damage
  named : Damage
deriving DecidableEq

/-- A fault that all readers notice alike. -/
def Fault.plain (damage : Damage) : Fault :=
  ⟨damage, damage, damage⟩

/-- The key of a member. -/
structure Key where
  /-- The key as it stands between its quotes. -/
  spelling : List Char
  /-- The text it stands for; a key with an unpaired surrogate has none. -/
  content : Except Flaw String

/-- The key for a text. -/
def Key.ofString (s : String) : Key :=
  ⟨s.toList, .ok s⟩

/-- How the list of items or members ends. -/
inductive Ending
  | closed
  /-- Behind an item or member stands neither a comma nor the end of the list. -/
  | broken (fault : Fault)
  /-- No key stands where one is expected. -/
  | keyless (fault : Fault)
  /-- The text breaks off inside a key; `rest` is what stands behind the quote that
  opens it. -/
  | brokenKey (fault : Fault) (rest : List Char)

/-- A document.  A number or string without content stands for one that can be
skipped but not kept: a number beyond the range of doubles, a string with an
unpaired surrogate. -/
inductive Document
  | null
  | bool (b : Bool)
  | number (n : Option Number)
  | string (content : Except Flaw String)
  | array (items : List Document) (ending : Ending)
  | object (members : List (Key × Document)) (ending : Ending)
  | broken (fault : Fault)

instance : Inhabited Document := ⟨.null⟩

mutual

/-- A value as a document. -/
def toDocument : Json → Document
  | .null => .null
  | .bool b => .bool b
  | .number n => .number (some n)
  | .string s => .string (.ok s)
  | .array items => .array (itemDocuments items) .closed
  | .object members => .object (memberDocuments members) .closed

/-- All items as documents. -/
def itemDocuments : List Json → List Document
  | [] => []
  | item :: rest => toDocument item :: itemDocuments rest

/-- All members as documents. -/
def memberDocuments : List (String × Json) → List (Key × Document)
  | [] => []
  | (key, value) :: rest => (Key.ofString key, toDocument value) :: memberDocuments rest

end

end Json

end Gradebook
