import Gradebook.Decimal.Reader
import Gradebook.Session
import Gradebook.Submission

namespace Gradebook

/-!
# Command line arguments

Options have long names and take their value behind an equals sign or as the
next argument, which then may not look like an option.  No option may be given
twice.  The options for the connection are known everywhere, the others belong
to a command.
-/

/-- The submission that a command is about, and the user's role in its lecture. -/
structure Target where
  lecture : UInt64
  assignment : UInt64
  submission : UInt64
  role : Role
deriving DecidableEq

/-- The submission that a target names. -/
def Target.key (target : Target) : SubmissionKey :=
  ⟨target.lecture, target.assignment, target.submission⟩

/-- What a grade is changed to; what is not given stays. -/
structure GradeChange where
  notebook : String
  cell : String
  score : Option Float
  extraCredit : Option Float
  comment : Option String
  /-- The point budget in place of the recorded one. -/
  maxPoints : Option Float
deriving DecidableEq

/-- What the program is asked to do. -/
inductive Command
  | classify (notebook : String) (json : Bool)
  | showLedger (target : Target) (json : Bool)
  | grade (target : Target) (change : GradeChange)
  | serve (port : Nat) (seed : Option String)
deriving DecidableEq

/-- The file that a command reads, if it reads one. -/
def Command.file? : Command → Option String
  | .classify notebook _ => some notebook
  | .serve _ seed => seed
  | .showLedger _ _ | .grade _ _ => none

/-- A command with the options for the connection. -/
structure Invocation where
  url : Option String
  token : Option String
  command : Command
deriving DecidableEq

namespace Arguments

/-! ## Options -/

/-- The options of a command. -/
structure Grammar where
  /-- The options that take a value. -/
  valued : List String
  /-- The options that take none. -/
  flags : List String
  /-- Letters that stand for an option with a value. -/
  letters : List (Char × String)
  /-- How many arguments may stand for themselves. -/
  positionals : Nat

/-- The options and other arguments found in a command line. -/
structure Found where
  options : List (String × String)
  positionals : List String

/-- Nothing found yet. -/
def Found.empty : Found := ⟨[], []⟩

/-- Note an option, which may not have been given before. -/
def Found.option? (found : Found) (name value : String) : Option Found :=
  match found.options.lookup name with
  | some _ => none
  | none => some { found with options := (name, value) :: found.options }

/-- Note further arguments that stand for themselves. -/
def Found.positional (found : Found) (values : List String) : Found :=
  { found with positionals := found.positionals ++ values }

/-- What an argument looks like. -/
inductive Shape
  /-- The mark behind which everything stands for itself. -/
  | separator
  | long (name : String) (value : Option String)
  | short (letter : Char) (rest : List Char)
  | plain (value : String)

/-- A long option with what follows its equals sign. -/
def longShape (text : List Char) : Shape :=
  .long (String.ofList (text.takeWhile (· ≠ '=')))
    (match text.dropWhile (· ≠ '=') with
      | _ :: value => some (String.ofList value)
      | [] => none)

/-- The shape of an argument.  A single dash stands for itself. -/
def shape (argument : String) : Shape :=
  match argument.toList with
  | '-' :: '-' :: [] => .separator
  | '-' :: '-' :: text => longShape text
  | '-' :: letter :: rest => .short letter rest
  | _ => .plain argument

/-- Whether an argument can be the value of the option before it. -/
def isValue (argument : String) : Bool :=
  match shape argument with
  | .plain _ => true
  | _ => false

/-- Find the options and other arguments of a command. -/
def scan (grammar : Grammar) (found : Found) : List String → Option Found
  | [] => some found
  | argument :: rest =>
    match shape argument with
    | .separator => some (found.positional rest)
    | .plain value => scan grammar (found.positional [value]) rest
    | .long name value =>
      if name ∈ grammar.flags then
        match value with
        | some _ => none
        | none => (found.option? name "").bind fun found => scan grammar found rest
      else if name ∈ grammar.valued then
        match value, rest with
        | some value, rest =>
          (found.option? name value).bind fun found => scan grammar found rest
        | none, [] => none
        | none, value :: rest =>
          if isValue value then
            (found.option? name value).bind fun found => scan grammar found rest
          else none
      else none
    | .short letter attached =>
      match grammar.letters.lookup letter, attached, rest with
      | none, _, _ => none
      | some name, '=' :: value, rest =>
        (found.option? name (String.ofList value)).bind fun found => scan grammar found rest
      | some name, c :: value, rest =>
        (found.option? name (String.ofList (c :: value))).bind fun found =>
          scan grammar found rest
      | some _, [], [] => none
      | some name, [], value :: rest =>
        if isValue value then
          (found.option? name value).bind fun found => scan grammar found rest
        else none

/-- The options known before and behind every command. -/
def connection : List String := ["url", "token"]

/-- Find the options before the command, the command and what follows it. -/
def scanCommand (found : Found) : List String → Option (Found × String × List String)
  | [] => none
  | argument :: rest =>
    match shape argument with
    | .plain name => some (found, name, rest)
    | .long name value =>
      if name ∈ connection then
        match value, rest with
        | some value, rest =>
          (found.option? name value).bind fun found => scanCommand found rest
        | none, [] => none
        | none, value :: rest =>
          if isValue value then
            (found.option? name value).bind fun found => scanCommand found rest
          else none
      else none
    | _ => none

/-! ## Values -/

namespace Found

/-- The value of an option that has to be given. -/
def text? (found : Found) (name : String) : Option String :=
  found.options.lookup name

/-- Whether an option was given. -/
def flag (found : Found) (name : String) : Bool :=
  (found.text? name).isSome

/-- A natural number that has to be given. -/
def natural? (found : Found) (name : String) : Option UInt64 :=
  (found.text? name).bind Decimal.natural64?

/-- A value that may be missing, but is well formed where it stands. -/
def optional? {α : Type} (found : Found) (name : String) (read : String → Option α) :
    Option (Option α) :=
  match found.text? name with
  | none => some none
  | some value => (read value).map some

end Found

/-- A path, which is not empty. -/
def pathOfText (text : String) : Option String :=
  if text = "" then none else some text

/-- A port number: a natural number of 16 bits, which may have a sign. -/
def portOfText (text : String) : Option Nat :=
  let (negative, digits) := Decimal.signed text.toList
  if digits.isEmpty || !digits.all Char.isDigit then none
  else
    let port := Decimal.natural digits
    if (negative && port ≠ 0) || UInt16.size ≤ port then none else some port

/-! ## Commands -/

/-- The options that name a submission. -/
def targetOptions : List String := ["lecture", "assignment", "submission", "role"]

/-- The target that the options name; the role is that of an instructor unless
another one is given. -/
def target? (found : Found) : Option Target := do
  let lecture ← found.natural? "lecture"
  let assignment ← found.natural? "assignment"
  let submission ← found.natural? "submission"
  let role ← found.optional? "role" Role.ofName?
  return ⟨lecture, assignment, submission, role.getD .instructor⟩

/-- The grammar of a command. -/
def grammar? : String → Option Grammar
  | "classify" => some ⟨connection, ["json"], [], 1⟩
  | "show" => some ⟨connection ++ targetOptions, ["json"], [], 0⟩
  | "grade" => some ⟨connection ++ targetOptions ++
      ["notebook", "cell", "score", "extra-credit", "comment", "max-points"], [], [], 0⟩
  | "serve" => some ⟨connection ++ ["port", "seed"], [], [('p', "port")], 0⟩
  | _ => none

/-- The command of some name with its options. -/
def command? (name : String) (found : Found) : Option Command :=
  match name with
  | "classify" => do
    let notebook ← found.positionals.head?.bind pathOfText
    return .classify notebook (found.flag "json")
  | "show" => do
    let target ← target? found
    return .showLedger target (found.flag "json")
  | "grade" => do
    let target ← target? found
    let notebook ← found.text? "notebook"
    let cell ← found.text? "cell"
    let score ← found.optional? "score" Decimal.ofText
    let extraCredit ← found.optional? "extra-credit" Decimal.ofText
    let maxPoints ← found.optional? "max-points" Decimal.ofText
    return .grade target ⟨notebook, cell, score, extraCredit, found.text? "comment", maxPoints⟩
  | "serve" => do
    let port ← found.optional? "port" portOfText
    let seed ← found.optional? "seed" pathOfText
    return .serve (port.getD 4010) seed
  | _ => none

/-- Read a command line.  A connection option behind the command takes
precedence over one before it. -/
def parse (arguments : List String) : Option Invocation := do
  let (before, name, rest) ← scanCommand .empty arguments
  let grammar ← grammar? name
  let found ← scan grammar .empty rest
  if grammar.positionals < found.positionals.length then none
  else
    let command ← command? name found
    return ⟨found.text? "url" <|> before.text? "url",
      found.text? "token" <|> before.text? "token", command⟩

end Arguments

end Gradebook
