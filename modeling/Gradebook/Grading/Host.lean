import Gradebook.Ledger.Basic

namespace Gradebook

/-!
# Widgets and their host

While a notebook is graded every gradable cell has a widget.  The host displays
the widgets: it hands out an id for each one it attaches, and it is told when to
detach one and whether it takes input.
-/

/-- What a widget is bound to. -/
structure Binding where
  notebook : String
  /-- The position of the cell in the notebook. -/
  cellIndex : Nat
  tool : Tool
  record : Ledger.Record
deriving DecidableEq

namespace Binding

/-- The id under which the cell is graded. -/
def cellId (binding : Binding) : String :=
  binding.record.cellId

/-- Whether the widget shows fields for scores.  Cells without a point budget
take comments only. -/
def hasScoreFields (binding : Binding) : Bool :=
  binding.tool.role.hasPoints

end Binding

/-- Something the host is told to do. -/
inductive HostCall
  | attach (widget : Nat) (binding : Binding)
  | detach (widget : Nat)
  | enable (widget : Nat) (enabled : Bool)
deriving DecidableEq

/-- A host, known by the ids that it hands out and by what it was told. -/
structure Host where
  /-- The id of the widget attached after so many others. -/
  issue : Nat → Nat
  /-- How many widgets were attached so far. -/
  attached : Nat
  /-- What the host was told, in order. -/
  calls : List HostCall

namespace Host

/-- A host that has not been told anything. -/
def ofIssue (issue : Nat → Nat) : Host := ⟨issue, 0, []⟩

/-- Attach a widget and learn its id. -/
def attach (host : Host) (binding : Binding) : Nat × Host :=
  let widget := host.issue host.attached
  (widget, { host with
    attached := host.attached + 1
    calls := host.calls ++ [.attach widget binding] })

/-- Tell the host to detach a widget. -/
def detach (host : Host) (widget : Nat) : Host :=
  { host with calls := host.calls ++ [.detach widget] }

/-- Tell the host whether a widget takes input. -/
def enable (host : Host) (widget : Nat) (enabled : Bool) : Host :=
  { host with calls := host.calls ++ [.enable widget enabled] }

end Host

end Gradebook
