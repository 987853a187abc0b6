import Gradebook.Json.Reader

namespace Gradebook

/-!
# Grading roles of cells

A `Tool` is what grading needs to know of a notebook cell: its role, the
identity under which its grade is kept, its point budget, and whether it is
locked.  It is derived from the cell's metadata and never stored.
-/

/-- The grading role of a cell. -/
inductive CellRole
  /-- Not part of grading. -/
  | unclassified
  /-- An answer graded by hand. -/
  | manual
  /-- A free-form task graded by hand. -/
  | task
  /-- A student's answer that the tests check. -/
  | solution
  /-- Tests that grade by themselves. -/
  | tests
  /-- A locked cell without a grading role. -/
  | readonly
deriving DecidableEq

namespace CellRole

/-- The roles by name. -/
def named : List (String × CellRole) :=
  [("unclassified", .unclassified), ("manual", .manual), ("task", .task),
    ("solution", .solution), ("tests", .tests), ("readonly", .readonly)]

/-- The name of a role. -/
def name : CellRole → String
  | .unclassified => "unclassified"
  | .manual => "manual"
  | .task => "task"
  | .solution => "solution"
  | .tests => "tests"
  | .readonly => "readonly"

/-- The role of a name, if it is one. -/
def ofName? (name : String) : Option CellRole :=
  named.lookup name

/-- Whether cells of this role carry a point budget. -/
def hasPoints : CellRole → Bool
  | .manual | .task | .tests => true
  | .unclassified | .solution | .readonly => false

/-- Whether cells of this role get a grading widget. -/
def isGradable : CellRole → Bool
  | .unclassified | .readonly => false
  | .manual | .task | .solution | .tests => true

end CellRole

/-- The derived grading data of a cell. -/
structure Tool where
  id : Option String
  role : CellRole
  points : Option Float
  locked : Bool
deriving DecidableEq

namespace Tool

/-- The tool of a cell that takes no part in grading. -/
def unclassified : Tool := ⟨none, .unclassified, none, false⟩

/-- A tool as a JSON record. -/
def toJson (tool : Tool) : Json :=
  .object [("id", .ofOption .string tool.id), ("type", .string tool.role.name),
    ("points", .ofOption .ofFloat tool.points), ("locked", .bool tool.locked)]

end Tool

end Gradebook
