import Gradebook.Text.Split

namespace Gradebook

/-!
# Paths

A path is kept as it is written, since its length and the way it ends matter
beside the names in it.  Which file or folder it leads to depends on what stands
on the way and is said in `Gradebook.Files`.
-/

/-- The way to a file or folder. -/
structure FilePath where
  text : String
deriving DecidableEq

namespace FilePath

/-- Read a path. -/
def ofText (text : String) : FilePath := ⟨text⟩

/-- The parts of a path between its slashes. -/
def parts (path : FilePath) : List String :=
  (Text.splitAt '/' path.text.toList).map String.ofList

/-- Whether a part of a path leads nowhere. -/
def isIdle (part : String) : Bool :=
  part = "" || part = "."

/-- The name that leads out of a folder. -/
def parentName : String := ".."

/-- The names that a path follows. -/
def names (path : FilePath) : List String :=
  path.parts.filter fun part => !isIdle part

/-- Whether a path starts at the root. -/
def isAbsolute (path : FilePath) : Bool :=
  path.text.startsWith "/"

/-- Whether the way a path is written admits a folder only. -/
def folderOnly (path : FilePath) : Bool :=
  match path.parts.getLast? with
  | some part => isIdle part || part = parentName
  | none => true

/-- The number of bytes that a path may have. -/
def maximalSize : Nat := 4095

/-- The number of bytes that a name may have. -/
def maximalNameSize : Nat := 255

/-- Whether a path can lead anywhere at all. -/
def isValid (path : FilePath) : Bool :=
  path.text.utf8ByteSize ≤ maximalSize && !path.text.toList.contains '\x00' &&
    path.names.all (·.utf8ByteSize ≤ maximalNameSize)

/-- Leave out the parts at the end that lead nowhere. -/
def trimEnd (parts : List String) : List String :=
  (parts.reverse.dropWhile isIdle).reverse

/-- The path without its last name, if it has one. -/
def parent? (path : FilePath) : Option FilePath :=
  match trimEnd path.parts with
  | [] => none
  | parts@(_ :: _) =>
    let above := trimEnd parts.dropLast
    some ⟨if above.isEmpty && path.isAbsolute then "/" else "/".intercalate above⟩

/-- A path as it is meant in a folder: one that starts at the root leads out of
the folder. -/
def under (path folder : FilePath) : FilePath :=
  if path.isAbsolute then path else ⟨folder.text ++ "/" ++ path.text⟩

end FilePath

end Gradebook
