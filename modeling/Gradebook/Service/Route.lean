import Gradebook.Decimal.Reader
import Gradebook.Submission
import Gradebook.Text.Hexadecimal
import Gradebook.Text.Split

namespace Gradebook

/-!
# Routes of the service

The path of a request is matched segment by segment.  The three numbers of a
submission's path may be written with escapes; they are read only after the path
has been matched, so a path can be known and yet name no submission.
-/

/-- The segments of a path that name a submission, as they are written. -/
structure PathKey where
  lecture : String
  assignment : String
  submission : String
deriving DecidableEq

/-- What a path leads to. -/
inductive Route
  | health
  | submission (key : PathKey)
  | properties (key : PathKey)
deriving DecidableEq

namespace Route

/-- What follows the scheme and the authority of a full address. -/
def afterAuthority : List Char → List Char
  | [] => []
  | ':' :: '/' :: '/' :: rest => rest.dropWhile (· ≠ '/')
  | _ :: rest => afterAuthority rest

/-- The path of a request's target, without its query and fragment.  The target
may also be a full address. -/
def path (target : String) : List Char :=
  match target.toList.takeWhile fun c => c ≠ '?' ∧ c ≠ '#' with
  | '/' :: rest => '/' :: rest
  | address => afterAuthority address

/-- Match the segments below the base path.  Where a number is to stand any
segment matches, also an empty one, but the last segment of a path is not
empty. -/
def ofSegments? : List String → Option Route
  | ["health"] => some .health
  | ["lectures", lecture, "assignments", assignment, "submissions", id] =>
    if id = "" then none else some (.submission ⟨lecture, assignment, id⟩)
  | ["lectures", lecture, "assignments", assignment, "submissions", id, "properties"] =>
    some (.properties ⟨lecture, assignment, id⟩)
  | _ => none

/-- Match the target of a request.  The service is mounted under
`/services/grader`. -/
def ofTarget? (target : String) : Option Route :=
  match (Text.splitAt '/' (path target)).map String.ofList with
  | "" :: "services" :: "grader" :: rest => ofSegments? rest
  | _ => none

end Route

/-! ## Escapes in paths -/

namespace PathKey

/-- The byte that a percent sign and the two characters behind it stand for. -/
def escaped? : List Char → Option (Nat × List Char)
  | high :: low :: rest => do
    let high ← Text.hexDigit? high
    let low ← Text.hexDigit? low
    return (16 * high + low, rest)
  | _ => none

/-- The bytes of a segment.  A percent sign that starts no escape stands for
itself. -/
def bytes : Nat → List Char → List UInt8
  | 0, _ => []
  | _ + 1, [] => []
  | fuel + 1, c :: rest =>
    if c = '%' then
      match escaped? rest with
      | some (byte, rest) => byte.toUInt8 :: bytes fuel rest
      | none => c.toNat.toUInt8 :: bytes fuel rest
    else c.toString.toUTF8.toList ++ bytes fuel rest

/-- The text that a segment stands for, if its bytes are a text. -/
def decode? (segment : String) : Option String :=
  if '%' ∈ segment.toList then
    String.fromUTF8? ⟨(bytes segment.length segment.toList).toArray⟩
  else some segment

/-- Why a path names no submission. -/
inductive Error
  | notText (parameter : String)
  | notNumber (position : Nat) (text : String)
deriving DecidableEq

/-- The message for a path that names no submission. -/
def Error.message : Error → String
  | .notText parameter => "Invalid URL: Invalid UTF-8 in \x60" ++ parameter ++ "\x60"
  | .notNumber position text =>
    "Invalid URL: Cannot parse value at index " ++ toString position ++ " with value \x60" ++
      text ++ "\x60 to a \x60u64\x60"

/-- The text of one segment. -/
def decoded (parameter segment : String) : Except Error String :=
  match decode? segment with
  | some text => .ok text
  | none => .error (.notText parameter)

/-- The number that a text stands for. -/
def number (position : Nat) (text : String) : Except Error UInt64 :=
  match Decimal.natural64? text with
  | some n => .ok n
  | none => .error (.notNumber position text)

/-- The submission that a path names: all segments are decoded before the first
is read as a number. -/
def toKey (key : PathKey) : Except Error SubmissionKey := do
  let lecture ← decoded "lecture_id" key.lecture
  let assignment ← decoded "assignment_id" key.assignment
  let submission ← decoded "submission_id" key.submission
  let lecture ← number 0 lecture
  let assignment ← number 1 assignment
  let submission ← number 2 submission
  return ⟨lecture, assignment, submission⟩

end PathKey

end Gradebook
