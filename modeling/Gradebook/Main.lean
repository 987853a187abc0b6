import Gradebook.Command.Run
import Gradebook.Transport.Socket

namespace Gradebook

/-!
# The program

Collects what a command line needs, runs it, and reports how it ends.
-/

/-- How the program is called. -/
def usage : String :=
  "usage: gradectl [--url URL] [--token TOKEN] classify|show|grade|serve [OPTION ...]"

/-- The variables that the program looks at. -/
def variableNames : List String :=
  ["GRADER_URL", "GRADER_API_TOKEN", "GRADER_USER", "USER", "XDG_CONFIG_HOME", "HOME"]

/-- Take the variables from the environment of the program. -/
def readEnvironment : IO Environment := do
  let settings ← variableNames.mapM fun name => do
    return (← IO.getEnv name).map ((name, ·))
  return ⟨settings.reduceOption⟩

/-- Read the file that stands under a path in a folder.  The result holds this
file alone, and nothing if it cannot be read. -/
def readFile (folder path : String) : IO Files := do
  try
    let bytes ← IO.FS.readBinFile (folder ++ path)
    return Files.empty.add (.ofText path) (((String.fromUTF8? bytes).map .text).getD .binary)
  catch _ => return .empty

/-- Look at what a command line needs. -/
def readSurroundings (arguments : List String) : IO Surroundings := do
  let environment ← readEnvironment
  let files ← match (Arguments.parse arguments).bind (·.command.file?) with
    | some path => readFile "" path
    | none => pure .empty
  let userFiles ← match Config.userFolder? environment with
    | some folder => readFile (folder ++ "/") Config.userPath
    | none => pure .empty
  return { environment, files, userFiles }

/-- Report how a command ended, or run the service it prepared. -/
def conclude (outcome : Outcome) : IO UInt32 := do
  IO.print outcome.output
  match outcome with
  | .printed _ => pure ()
  | .failed _ => outcome.report?.forM fun report => IO.eprintln report
  | .misused => IO.eprintln usage
  | .serving port service => Socket.serve port.toUInt16 service
  return outcome.exitCode.toUInt32

end Gradebook

open Gradebook in
/-- Run a command line. -/
def main (arguments : List String) : IO UInt32 := do
  let surroundings ← readSurroundings arguments
  let outcome ← (runArguments surroundings arguments).runWith Socket.call
  conclude outcome
