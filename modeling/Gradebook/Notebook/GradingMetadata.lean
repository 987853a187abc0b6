import Gradebook.Notebook.Tool

namespace Gradebook

/-!
# Grading metadata of cells

Grading metadata is what an assignment author attached to a cell, under a key of
its own in the cell's metadata.  It is foreign data: whatever has the wrong JSON
type counts as not set.  `GradingMetadata.classify` derives the cell's grading
role from it, `GradingMetadata.ofTool?` writes the metadata that is classified
as a given role.
-/

/-- What kind of content a cell holds.  Raw cells are graded like prose. -/
inductive Content
  | code
  | markdown
  | raw
deriving DecidableEq

namespace Content

/-- The name of a content kind. -/
def name : Content → String
  | .code => "code"
  | .markdown => "markdown"
  | .raw => "raw"

/-- The kinds that are read by their names; every other name is read as raw. -/
def named : List (String × Content) :=
  [("code", .code), ("markdown", .markdown)]

/-- Read the name of a content kind. -/
def reader : Json.Reader Content :=
  Json.nameReader named (some .raw)

end Content

/-- The grading metadata of a cell. -/
structure GradingMetadata where
  gradeId : Option String
  grade : Bool
  solution : Bool
  locked : Bool
  task : Bool
  points : Option Float
  schemaVersion : UInt32
deriving DecidableEq

namespace GradingMetadata

/-- The key of a cell's metadata under which its grading metadata stands. -/
def metadataKey : String := "nbgrader"

/-- The schema version that is written. -/
def currentSchema : UInt32 := 3

/-- Read the members of grading metadata. -/
def ofMembers (members : Json) : GradingMetadata :=
  let flag key := ((members.member? key).bind Json.bool?).getD false
  { gradeId := ((members.member? "grade_id").bind Json.string?).filter (· ≠ "")
    grade := flag "grade"
    solution := flag "solution"
    locked := flag "locked"
    task := flag "task"
    points := (members.member? "points").bind Json.float?
    schemaVersion :=
      match (members.member? "schema_version").bind Json.natural? with
      | some version => if version.toNat < UInt32.size then version.toUInt32 else 0
      | none => 0 }

/-- Read the grading metadata out of a cell's metadata.  There is none where its
key holds no object. -/
def ofMetadata? (metadata : Json) : Option GradingMetadata :=
  match metadata.member? metadataKey with
  | some (.object members) => some (ofMembers (.object members))
  | _ => none

/-- The role that the flags mark in a cell of some content. -/
def role (data : GradingMetadata) (content : Content) : CellRole :=
  if data.grade && data.solution then
    if content = .code then .tests else .manual
  else if data.task then .task
  else if data.grade then .manual
  else if data.solution then .solution
  else if data.locked then .readonly
  else .unclassified

/-- The point budget: never negative, and zero where no finite number stands. -/
def budget (data : GradingMetadata) : Float :=
  match data.points with
  | some points => if points.isFinite && 0 < points then points else 0
  | none => 0

/-- Derive the grading data of a cell.  A marked cell without an identity could
not be matched with a grade and is left out of grading. -/
def classify (data : GradingMetadata) (content : Content) : Tool :=
  match data.role content, data.gradeId with
  | .unclassified, _ => .unclassified
  | _, none => .unclassified
  | role, some id =>
    { id := some id
      role
      points := if role.hasPoints then some data.budget else none
      locked := data.locked }

/-- The grading metadata that an author writes for a role.  A cell that takes no part
in grading has none. -/
def ofTool? (tool : Tool) : Option GradingMetadata :=
  let write (grade solution task locked : Bool) : GradingMetadata :=
    { gradeId := tool.id, grade, solution, locked := locked || tool.locked, task,
      points := tool.points, schemaVersion := currentSchema }
  match tool.role with
  | .unclassified => none
  | .tests => some (write true true false false)
  | .manual => some (write true false false false)
  | .task => some (write true false true false)
  | .solution => some (write false true false false)
  | .readonly => some (write false false false true)

/-- The object that stands under `metadataKey`. -/
def toJson (data : GradingMetadata) : Json :=
  .ofDict (.ofList [
    ("grade_id", .ofOption .string data.gradeId),
    ("grade", .bool data.grade),
    ("solution", .bool data.solution),
    ("locked", .bool data.locked),
    ("task", .bool data.task),
    ("points", .ofOption .ofFloat data.points),
    ("schema_version", .number (.natural data.schemaVersion.toUInt64))])

end GradingMetadata

end Gradebook
