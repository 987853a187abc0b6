import Gradebook.Json.Parser

namespace Gradebook

/-!
# Reading shapes out of documents

A reader takes a document apart in the order in which it stands and fails at the
first thing that does not fit.  The same reader serves the document of a text
and that of a value.  The differences between the two are few and are kept in
`Origin`: only in a text is nesting limited, and the two complain differently
about what stands behind the last thing wanted and about a name that is none.

Records are read from objects, or, where their reader allows it, from arrays of
their fields.  A field that stands twice is an error, a key of a dictionary that
stands twice keeps its last value.
-/

namespace Json

/-- Where a document comes from. -/
inductive Origin
  /-- A value that has been read before. -/
  | value
  /-- A part of a record, checked and then set aside until the whole record had
  been read. -/
  | aside
  /-- A text in which so many arrays and objects may still be opened. -/
  | text (levels : Nat)

/-- The number of arrays and objects that a text may have open at once. -/
def maximalDepth : Nat := 127

/-- Open an array or object. -/
def Origin.enter : Origin → Except ReadError Origin
  | .value => .ok .value
  | .aside => .ok .aside
  | .text 0 => .error (.damaged (.malformed .depth))
  | .text (levels + 1) => .ok (.text levels)

/-- Read an `α` from a document. -/
abbrev Reader (α : Type) := Origin → Document → Except ReadError α

/-- The fault in the end of a list of items or members, if it has one. -/
def Ending.fault? : Ending → Option Fault
  | .closed => none
  | .broken fault | .keyless fault | .brokenKey fault _ => some fault

/-- Make sure that the list of items or members was closed. -/
def Ending.finish (ending : Ending) : Except ReadError Unit :=
  match ending.fault? with
  | none => .ok ()
  | some fault => .error (.damaged fault.kept)

/-- As `Ending.finish`, for one who skips. -/
def Ending.finishSkipped (ending : Ending) : Except ReadError Unit :=
  match ending.fault? with
  | none => .ok ()
  | some fault => .error (.damaged fault.skipped)

/-- Make sure that nothing is left of an object, for one who wants no further
member and does not expect a comma. -/
def Origin.finish (origin : Origin) (rest : List (Key × Document)) (ending : Ending) :
    Except ReadError Unit :=
  match origin, rest, ending with
  | _, [], .closed => .ok ()
  | .value, rest, _ => .error (.mismatch (.wrongLength (rest.length + 1) "fewer elements in map"))
  | .aside, rest, _ => .error (.mismatch (.wrongLength (rest.length + 1) "1 element in map"))
  | .text _, [], .broken ⟨.truncated inside, _, _⟩ => .error (.damaged (.truncated inside))
  | .text _, [], .broken _ => .error (.damaged (.malformed .trailing))
  | .text _, _, _ => .error (.damaged (.malformed .comma))

/-- The text of a key. -/
def Key.text (key : Key) : Except ReadError String :=
  match key.content with
  | .ok name => .ok name
  | .error flaw => .error (.damaged (.malformed flaw))

/-! ## Anything -/

mutual

/-- Skip a document.  Its outline has to be right, at any depth. -/
def skip : Document → Except ReadError Unit
  | .array items ending => do
    skipItems items
    ending.finishSkipped
  | .object members ending => do
    skipMembers members
    ending.finishSkipped
  | .broken fault => .error (.damaged fault.skipped)
  | _ => .ok ()

/-- Skip all items. -/
def skipItems : List Document → Except ReadError Unit
  | [] => .ok ()
  | item :: rest => do
    skip item
    skipItems rest

/-- Skip all members, whatever their keys stand for. -/
def skipMembers : List (Key × Document) → Except ReadError Unit
  | [] => .ok ()
  | (_, value) :: rest => do
    skip value
    skipMembers rest

end

/-! ## Scalars -/

/-- What a document is, as a message names it. -/
def found : Document → Except ReadError Found
  | .null => .ok .null
  | .bool b => .ok (.bool b)
  | .number (some n) => .ok (.number n)
  | .string (.ok s) => .ok (.string s)
  | .array _ _ => .ok .sequence
  | .object _ _ => .ok .map
  | .number none => .error (.damaged (.malformed .range))
  | .string (.error flaw) => .error (.damaged (.malformed flaw))
  | .broken fault => .error (.damaged fault.kept)

/-- Refuse a document in favour of what was expected. -/
def refuse {α : Type} (expected : String) (document : Document) : Except ReadError α := do
  let found ← found document
  throw (.mismatch (.wrongType found expected))

/-- Read null. -/
def unitReader : Reader Unit
  | _, .null => .ok ()
  | _, document => refuse "unit" document

/-- Read a truth value. -/
def boolReader : Reader Bool
  | _, .bool b => .ok b
  | _, document => refuse "a boolean" document

/-- Read a text; `expected` is what it is expected to be. -/
def textReader (expected : String) : Reader String
  | _, .string (.ok s) => .ok s
  | _, document => refuse expected document

/-- Read a text of any kind. -/
def stringReader : Reader String :=
  textReader "a string"

/-- Read a number of any kind. -/
def numberReader : Reader Number
  | _, .number (some n) => .ok n
  | _, document => refuse "a JSON number" document

/-- A number that is natural by kind. -/
def naturalOf : Number → Except ReadError UInt64
  | .natural n => .ok n
  | .negative k => .error (.mismatch (.wrongValue (.number (.negative k)) "u64"))
  | .double x finite => .error (.mismatch (.wrongType (.number (.double x finite)) "u64"))

/-- Read a number that is natural by kind. -/
def naturalReader : Reader UInt64
  | _, .number (some n) => naturalOf n
  | _, document => refuse "u64" document

/-- Read null as a missing value. -/
def nullable {α : Type} (read : Reader α) : Reader (Option α)
  | _, .null => .ok none
  | origin, document => do
    let value ← read origin document
    return some value

/-! ## Sequences and dictionaries -/

/-- Read all items of a list. -/
def readItems {α : Type} (read : Reader α) (origin : Origin) :
    List Document → Except ReadError (List α)
  | [] => .ok []
  | item :: rest => do
    let value ← read origin item
    let values ← readItems read origin rest
    return value :: values

/-- Read an array whose items all have one shape. -/
def sequenceReader {α : Type} (read : Reader α) : Reader (List α)
  | origin, .array items ending => do
    let inner ← origin.enter
    let values ← readItems read inner items
    ending.finish
    return values
  | _, document => refuse "a sequence" document

/-- Read members one after the other into a state. -/
def foldMembers {σ : Type} (step : σ → String → Document → Except ReadError σ)
    (ending : Ending) : σ → List (Key × Document) → Except ReadError σ
  | state, [] => do
    ending.finish
    return state
  | state, (key, value) :: rest => do
    let name ← key.text
    let state ← step state name value
    foldMembers step ending state rest

/-- Read an object whose values all have one shape; the last value for a key
counts. -/
def dictReader {α : Type} (read : Reader α) : Reader (Dict α)
  | origin, .object members ending => do
    let inner ← origin.enter
    foldMembers (fun dict name value => do return dict.insert name (← read inner value))
      ending Dict.empty members
  | _, document => refuse "a map" document

/-! ## Names -/

/-- The meaning of a name, from a list of known ones; `other` is the meaning of
all further names, if they have one. -/
def named {α : Type} (known : List (String × α)) (other : Option α) (name : String) :
    Except ReadError α :=
  match known.lookup name <|> other with
  | some meaning => .ok meaning
  | none => .error (.mismatch (.unknownVariant name (known.map Prod.fst)))

/-- Read a name, which stands as a string or as the only key of an object over
null.  In a text the end of the object is asked for right behind null. -/
def nameReader {α : Type} (known : List (String × α)) (other : Option α) : Reader α
  | _, .string (.ok s) => named known other s
  | .text levels, .object members ending => do
    let inner ← Origin.enter (.text levels)
    match members with
    | [] => do
      ending.finish
      throw (.damaged (.malformed .noValue))
    | (key, value) :: rest => do
      let meaning ← named known other (← key.text)
      unitReader inner value
      inner.finish rest ending
      return meaning
  | .text _, .broken fault => .error (.damaged fault.named)
  | .text _, _ => .error (.damaged (.malformed .noValue))
  | origin, .object [(key, value)] _ => do
    let meaning ← named known other (← key.text)
    unitReader origin value
    return meaning
  | _, .object _ _ =>
    .error (.mismatch (.wrongValue .map "map with a single key"))
  | _, document => refuse "string or map" document

/-! ## Records -/

/-- Read a field unless it has been read before. -/
def once {α : Type} (name : String) (slot : Option α) (value : Except ReadError α) :
    Except ReadError (Option α) :=
  match slot with
  | some _ => .error (.mismatch (.duplicateField name))
  | none => value.map some

/-- The value of a field that has to be there. -/
def required {α : Type} (name : String) : Option α → Except ReadError α
  | some value => .ok value
  | none => .error (.mismatch (.missingField name))

/-- The elements of an array that stands for a record. -/
structure Elements where
  origin : Origin
  /-- The elements that have not been read. -/
  items : List Document
  ending : Ending
  /-- The number of all elements. -/
  length : Nat

/-- Read the next element, if there is one. -/
def Elements.next {α : Type} (elements : Elements) (read : Reader α) :
    Except ReadError (Option α × Elements) :=
  match elements.items with
  | [] => do
    elements.ending.finish
    return (none, elements)
  | item :: rest => do
    let value ← read elements.origin item
    return (some value, { elements with items := rest })

/-- Read the next element, which has to be there. -/
def Elements.nextRequired {α : Type} (elements : Elements) (read : Reader α)
    (position : Nat) (expected : String) : Except ReadError (α × Elements) := do
  let (value, rest) ← elements.next read
  match value with
  | some value => return (value, rest)
  | none => throw (.mismatch (.wrongLength position expected))

/-- Make sure that no element is left. -/
def Elements.finish (elements : Elements) : Except ReadError Unit :=
  match elements.items, elements.origin with
  | [], _ => elements.ending.finish
  | _ :: _, .text _ => .error (.damaged (.malformed .trailing))
  | _ :: _, _ =>
    .error (.mismatch (.wrongLength elements.length "fewer elements in array"))

/-- Read a record from an object by `members` or from an array by `elements`. -/
def recordReader {α : Type} (type : String)
    (members : Origin → List (Key × Document) → Ending → Except ReadError α)
    (elements : Elements → Except ReadError α) : Reader α
  | origin, .object fields ending => do
    let inner ← origin.enter
    members inner fields ending
  | origin, .array items ending => do
    let inner ← origin.enter
    elements ⟨inner, items, ending, items.length⟩
  | _, document => refuse ("struct " ++ type) document

/-- Read a record that is always an object. -/
def objectReader {α : Type} (type : String)
    (members : Origin → List (Key × Document) → Ending → Except ReadError α) : Reader α
  | origin, .object fields ending => do
    let inner ← origin.enter
    members inner fields ending
  | _, document => refuse ("struct " ++ type) document

/-! ## Number keys -/

/-- Read a natural number as a key, from what stands behind its opening quote.
It is judged as it is spelled, and before it is clear where the key ends: only
behind the number does `closed` say whether the key ends there. -/
def scanNaturalKey (closed : List Char → Bool) (text : List Char) : Except ReadError UInt64 :=
  match text with
  | [] => .error (.damaged (.malformed .number))
  | c :: _ =>
    if c = '-' || c.isDigit then
      match scanNumber text with
      | .ok (some n, rest) => do
        let n ← naturalOf n
        if closed rest then return n else throw (.damaged (.malformed .number))
      | .ok (none, _) => .error (.damaged (.malformed .range))
      | .error fault => .error (.damaged fault.kept)
    else .error (.damaged (.malformed .number))

/-- The natural number that a key stands for. -/
def naturalKey (origin : Origin) (key : Key) : Except ReadError UInt64 :=
  match origin with
  | .text _ => scanNaturalKey (· = ['"']) (key.spelling ++ ['"'])
  | _ => scanNaturalKey List.isEmpty key.spelling

/-- Read an object whose keys are natural numbers, in the order in which they
stand. -/
def naturalMapReader {α : Type} (read : Reader α) : Reader (List (UInt64 × α))
  | origin, .object members ending => do
    let inner ← origin.enter
    let entries ← go inner members
    match ending with
    | .brokenKey _ rest => do
      let _ ← scanNaturalKey (fun _ => false) rest
    | ending => ending.finish
    return entries
  | _, document => refuse "a map" document
where
  go (inner : Origin) : List (Key × Document) → Except ReadError (List (UInt64 × α))
    | [] => .ok []
    | (key, value) :: rest => do
      let key ← naturalKey inner key
      let value ← read inner value
      let entries ← go inner rest
      return (key, value) :: entries

/-! ## Whole texts and values -/

/-- Read a text, which may hold nothing beside the document. -/
def readText {α : Type} (read : Reader α) (text : String) : Except ReadError α := do
  let parsed := parse text
  let value ← read (.text maximalDepth) parsed.document
  if parsed.trailing then throw (.damaged (.malformed .trailing)) else return value

/-- Read a value. -/
def readValue {α : Type} (read : Reader α) (value : Json) : Except ReadError α :=
  read .value value.toDocument

end Json

end Gradebook
