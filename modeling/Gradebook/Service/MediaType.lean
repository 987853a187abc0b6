namespace Gradebook

/-!
# Media types

A media type is written `type/subtype`, where the subtype may end in a suffix
behind a plus, and may be followed by parameters.
-/

/-- A media type without its parameters, in lower case. -/
structure MediaType where
  type : String
  subtype : String
  suffix : Option String
deriving DecidableEq

namespace MediaType

/-- Whether a character may stand in a name. -/
def isToken (c : Char) : Bool :=
  c.isAlphanum || "!#$%&'*+-.^_\x60|~".toList.contains c

/-- Split at the last plus, which does not count as the first character. -/
def splitSuffix (name : List Char) : List Char × Option (List Char) :=
  let suffix := (name.reverse.takeWhile (· ≠ '+')).reverse
  let before := name.length - suffix.length - 1
  if suffix.length = name.length ∨ before = 0 then (name, none)
  else (name.take before, some suffix)

/-- Whether a character may stand between the quotes of a value. -/
def isQuotable (c : Char) : Bool :=
  ' ' ≤ c && c ≤ '~'

/-- What follows a quoted value, given from behind its opening quote.  The first
character belongs to the value whatever it is, the next quote ends it. -/
def afterQuoted? : List Char → Option (List Char)
  | [] => none
  | first :: rest =>
    match rest.dropWhile fun c => isQuotable c && c ≠ '"' with
    | '"' :: rest => if isQuotable first then some rest else none
    | _ => none

/-- What follows the value of a parameter and the semicolon that ends it.  A
value is a name or a quoted text.  Blanks may follow the quoted one; the other
may be empty if nothing follows. -/
def afterValue? : List Char → Option (List Char)
  | [] => some []
  | ';' :: _ => none
  | '"' :: quoted => do
    let rest ← afterQuoted? quoted
    match rest.dropWhile (· = ' ') with
    | [] => some []
    | ';' :: rest => some rest
    | _ => none
  | name =>
    match name.dropWhile isToken with
    | [] => some []
    | ';' :: rest => some rest
    | _ => none

/-- Whether a list of parameters, given from behind a semicolon, is well formed.
It may be empty, its parameters may not. -/
def parametersFit : Nat → List Char → Bool
  | 0, _ => false
  | _ + 1, [] => true
  | fuel + 1, ' ' :: rest => parametersFit fuel rest
  | fuel + 1, text =>
    match text.dropWhile isToken with
    | '=' :: value =>
      if text.head? = some '=' then false
      else
        match afterValue? value with
        | some rest => parametersFit fuel rest
        | none => false
    | _ => false

/-- Whether what follows a subtype is well formed. -/
def endFits : List Char → Bool
  | [] => true
  | ';' :: rest => parametersFit (rest.length + 1) rest
  | _ => false

/-- Read a media type. -/
def ofText? (text : String) : Option MediaType :=
  let lower := text.toList.map Char.toLower
  let type := lower.takeWhile isToken
  match lower.dropWhile isToken with
  | '/' :: rest =>
    let name := rest.takeWhile isToken
    let (subtype, suffix) := splitSuffix name
    if type.isEmpty || name.isEmpty || !endFits (rest.dropWhile isToken) then none
    else some ⟨String.ofList type, String.ofList subtype, suffix.map String.ofList⟩
  | _ => none

/-- Whether the content is JSON, or of a format based on it. -/
def isJson (media : MediaType) : Bool :=
  media.type = "application" && (media.subtype = "json" || media.suffix = some "json")

end MediaType

end Gradebook
