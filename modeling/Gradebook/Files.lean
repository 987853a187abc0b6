import Gradebook.FilePath

namespace Gradebook

/-!
# Files

The part of a file system that the program sees: a tree of folders, and files
that hold text or something else.  A place in the tree is given by the names
that lead there from the root.

A path is followed name by name.  Everything on the way has to be a folder, also
where the next name leads out of it again; only what stands at the end may be a
file, or missing.
-/

/-- What a file holds. -/
inductive FileContent
  | text (text : String)
  /-- Bytes that are no text. -/
  | binary
deriving DecidableEq

/-- A file, or a folder with what stands in it. -/
inductive FileNode
  | file (content : FileContent)
  | folder (entries : List (String × FileNode))

namespace FileNode

/-- Whether a node is a folder. -/
def isFolder : FileNode → Bool
  | .file _ => false
  | .folder _ => true

/-- What stands at a place below a node. -/
def below? : FileNode → List String → Option FileNode
  | node, [] => some node
  | .file _, _ :: _ => none
  | .folder entries, name :: rest =>
    match entries.lookup name with
    | some node => node.below? rest
    | none => none

/-- Put a node under a name, in place of the one that stands there. -/
def putEntry (name : String) (new : FileNode) :
    List (String × FileNode) → List (String × FileNode)
  | [] => [(name, new)]
  | (other, node) :: rest =>
    if other = name then (name, new) :: rest else (other, node) :: putEntry name new rest

/-- Put a node at a place below another one; there is no place below a file. -/
def put (new : FileNode) : FileNode → List String → FileNode
  | _, [] => new
  | .file content, _ :: _ => .file content
  | .folder entries, name :: rest =>
    .folder (putEntry name (put new ((entries.lookup name).getD (.folder [])) rest) entries)

end FileNode

/-- A file system. -/
structure Files where
  root : FileNode
  /-- The place where paths start that do not start at the root. -/
  workingFolder : List String

namespace Files

/-- A file system without files. -/
def empty : Files := ⟨.folder [], []⟩

/-- What stands at a place. -/
def node? (files : Files) (place : List String) : Option FileNode :=
  files.root.below? place

/-- Whether a folder stands at a place. -/
def isFolder (files : Files) (place : List String) : Bool :=
  match files.node? place with
  | some node => node.isFolder
  | none => false

/-- Put a node at a place. -/
def put (files : Files) (place : List String) (node : FileNode) : Files :=
  { files with root := .put node files.root place }

/-! ## Following paths -/

/-- Where a path starts. -/
def start (files : Files) (path : FilePath) : List String :=
  if path.isAbsolute then [] else files.workingFolder

/-- The place to which a name leads from a folder.  The root is its own
parent. -/
def step (place : List String) (name : String) : List String :=
  if name = FilePath.parentName then place.dropLast else place ++ [name]

/-- The place to which names lead from another place. -/
def follow (files : Files) : List String → List String → Option (List String)
  | place, [] => some place
  | place, name :: rest =>
    if files.isFolder place then files.follow (step place name) rest else none

/-- The place to which a path leads. -/
def place? (files : Files) (path : FilePath) : Option (List String) :=
  if path.isValid then files.follow (files.start path) path.names else none

/-- What stands under a path. -/
def find? (files : Files) (path : FilePath) : Option FileNode := do
  let place ← files.place? path
  let node ← files.node? place
  if path.folderOnly && !node.isFolder then none else some node

/-- The text in a file; there is none where no file stands or the file holds
something else. -/
def readText? (files : Files) (path : FilePath) : Option String :=
  match files.find? path with
  | some (.file (.text text)) => some text
  | _ => none

/-! ## Changes -/

/-- Follow names from a place and create the folders that are missing on the way.
A file on the way prevents it. -/
def createFrom (files : Files) (place : List String) : List String → Option Files
  | [] => some files
  | name :: rest =>
    let next := step place name
    match files.node? next with
    | some (.folder _) => files.createFrom next rest
    | some (.file _) => none
    | none => (files.put next (.folder [])).createFrom next rest

/-- Create the folder of a path and all those on the way to it, as far as they
are missing. -/
def createFolders (files : Files) (path : FilePath) : Option Files :=
  if path.isValid then files.createFrom (files.start path) path.names else none

/-- Create the folders on the way to the last name of a path. -/
def createParents (files : Files) (path : FilePath) : Option Files :=
  match path.parent? with
  | some parent => files.createFolders parent
  | none => some files

/-- Write a file, in place of what it held.  That fails where a folder stands, or
no folder in which the file could be. -/
def write (files : Files) (path : FilePath) (content : FileContent) : Option Files :=
  if path.folderOnly then none
  else do
    let place ← files.place? path
    if files.isFolder place then none else some (files.put place (.file content))

/-- Add a file with the folders on the way to it; where that fails, nothing
changes. -/
def add (files : Files) (path : FilePath) (content : FileContent) : Files :=
  ((files.createParents path).bind (·.write path content)).getD files

/-- The same files, seen from a folder, which is created if it is missing. -/
def seenFrom (files : Files) (folder : FilePath) : Files :=
  match files.createFolders folder with
  | some created =>
    { created with
      workingFolder := (created.place? folder).getD files.workingFolder }
  | none => files

end Files

end Gradebook
