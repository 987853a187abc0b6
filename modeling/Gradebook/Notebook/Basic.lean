import Gradebook.Json.Kept
import Gradebook.Notebook.GradingMetadata

namespace Gradebook

/-!
# Notebooks

The part of a notebook document that grading needs: its cells in document order,
each with its content kind, metadata and source.  Reading is lenient, unknown
fields are skipped; writing produces all fields of this part.
-/

/-- The source of a cell, as one text or line by line. -/
inductive Source
  | text (text : String)
  | lines (lines : List String)
deriving DecidableEq

/-- The joined source text. -/
def Source.joined : Source → String
  | .text whole => whole
  | .lines pieces => String.join pieces

/-- A notebook cell. -/
structure Cell where
  /-- The cell's own id, which older notebooks leave out. -/
  id : Option String
  content : Content
  metadata : Json
  source : Source

/-- A notebook. -/
structure Notebook where
  cells : List Cell
  metadata : Json

/-! ## Classification -/

/-- The grading metadata of a cell, if it has any. -/
def Cell.grading? (cell : Cell) : Option GradingMetadata :=
  GradingMetadata.ofMetadata? cell.metadata

/-- The grading data of a cell. -/
def Cell.tool (cell : Cell) : Tool :=
  match cell.grading? with
  | some data => data.classify cell.content
  | none => .unclassified

/-- The grading data of all cells, in document order. -/
def Notebook.tools (notebook : Notebook) : List Tool :=
  notebook.cells.map Cell.tool

/-! ## Reading -/

open Json (Reader ReadError Origin Document Elements)

namespace Source

/-- The texts of a list of strings. -/
def strings? : List Document → Option (List String)
  | [] => some []
  | .string (.ok s) :: rest => (strings? rest).map (s :: ·)
  | _ :: _ => none

/-- The source that a document holds, if it is a text or a list of texts. -/
def ofDocument? : Document → Option Source
  | .string (.ok s) => some (.text s)
  | .array items _ => (strings? items).map .lines
  | _ => none

/-- Read a source. -/
def reader : Reader Source := fun origin document => do
  Json.check origin document
  match ofDocument? document with
  | some source => return source
  | none => throw (.mismatch (.noForm "Source"))

/-- The source of a cell that states none. -/
def empty : Source := .text ""

/-- A source in the form in which it was given. -/
def toJson : Source → Json
  | .text whole => .string whole
  | .lines pieces => .array (pieces.map .string)

end Source

namespace Cell

/-- The fields of a cell read so far. -/
structure Fields where
  id : Option (Option String) := none
  content : Option Content := none
  metadata : Option Json := none
  source : Option Source := none

/-- Read one member of a cell. -/
def Fields.read (origin : Origin) (fields : Fields) (name : String) (value : Document) :
    Except ReadError Fields :=
  match name with
  | "id" => do
    let id ← Json.once name fields.id (Json.nullable Json.stringReader origin value)
    return { fields with id }
  | "cell_type" => do
    let content ← Json.once name fields.content (Content.reader origin value)
    return { fields with content }
  | "metadata" => do
    let metadata ← Json.once name fields.metadata (Json.keep origin value)
    return { fields with metadata }
  | "source" => do
    let source ← Json.once name fields.source (Source.reader origin value)
    return { fields with source }
  | _ => do
    Json.skip value
    return fields

/-- The cell that the fields make. -/
def Fields.toCell (fields : Fields) : Except ReadError Cell := do
  let content ← Json.required "cell_type" fields.content
  return ⟨fields.id.getD none, content, fields.metadata.getD .null,
    fields.source.getD .empty⟩

/-- Read a cell from the list of its fields. -/
def ofElements (elements : Elements) : Except ReadError Cell := do
  let (id, elements) ← elements.next (Json.nullable Json.stringReader)
  let (content, elements) ←
    elements.nextRequired Content.reader 1 "struct Cell with 4 elements"
  let (metadata, elements) ← elements.next Json.keep
  let (source, elements) ← elements.next Source.reader
  elements.finish
  return ⟨id.getD none, content, metadata.getD .null, source.getD .empty⟩

/-- Read a cell; only its content kind has to be there. -/
def reader : Reader Cell :=
  Json.recordReader "Cell"
    (fun origin members ending => do
      let fields ← Json.foldMembers (Fields.read origin) ending {} members
      fields.toCell)
    ofElements

/-- A cell with its fields in the order in which they are declared. -/
def toJson (cell : Cell) : Json :=
  .object [("id", .ofOption .string cell.id), ("cell_type", .string cell.content.name),
    ("metadata", cell.metadata), ("source", cell.source.toJson)]

end Cell

namespace Notebook

/-- The fields of a notebook read so far. -/
structure Fields where
  cells : Option (List Cell) := none
  metadata : Option Json := none

/-- Read one member of a notebook. -/
def Fields.read (origin : Origin) (fields : Fields) (name : String) (value : Document) :
    Except ReadError Fields :=
  match name with
  | "cells" => do
    let cells ← Json.once name fields.cells (Json.sequenceReader Cell.reader origin value)
    return { fields with cells }
  | "metadata" => do
    let metadata ← Json.once name fields.metadata (Json.keep origin value)
    return { fields with metadata }
  | _ => do
    Json.skip value
    return fields

/-- The notebook that the fields make. -/
def Fields.toNotebook (fields : Fields) : Except ReadError Notebook := do
  let cells ← Json.required "cells" fields.cells
  return ⟨cells, fields.metadata.getD .null⟩

/-- Read a notebook from the list of its fields. -/
def ofElements (elements : Elements) : Except ReadError Notebook := do
  let (cells, elements) ← elements.nextRequired (Json.sequenceReader Cell.reader) 0
    "struct Notebook with 2 elements"
  let (metadata, elements) ← elements.next Json.keep
  elements.finish
  return ⟨cells, metadata.getD .null⟩

/-- Read a notebook; only its cells have to be there. -/
def reader : Reader Notebook :=
  Json.recordReader "Notebook"
    (fun origin members ending => do
      let fields ← Json.foldMembers (Fields.read origin) ending {} members
      fields.toNotebook)
    ofElements

/-- Read the text of a notebook document. -/
def ofText (text : String) : Except ReadError Notebook :=
  Json.readText reader text

/-- A notebook with its fields in the order in which they are declared. -/
def toJson (notebook : Notebook) : Json :=
  .object [("cells", .array (notebook.cells.map Cell.toJson)),
    ("metadata", notebook.metadata)]

end Notebook

end Gradebook
