import Gradebook.Json.Kept

namespace Gradebook

/-!
# Entries of a grading payload

The grading service keeps, for every notebook of a submission, a grade entry and
a comment entry per cell.  A recognised member of an entry may be missing, null
or set, and the three are kept apart.  All other members belong to the service
and are carried along unchanged; their type says that none of them has the name
of a recognised one, so an entry and its JSON object determine each other.
-/

/-- A member of a record that may be missing or null. -/
inductive Field (α : Type)
  | absent
  | null
  | value (a : α)
deriving DecidableEq

namespace Field

variable {α : Type}

/-- The value of a member that is set. -/
def get? : Field α → Option α
  | .value a => some a
  | _ => none

/-- A member that is present, over null or a value. -/
def ofOption : Option α → Field α
  | some a => .value a
  | none => .null

/-- Put the member into an object, unless it is missing. -/
def write (toJson : α → Json) (name : String) : Field α → Dict Json → Dict Json
  | .absent, object => object
  | .null, object => object.insert name .null
  | .value a, object => object.insert name (toJson a)

/-- Read a member that may be null, unless it has been read before. -/
def read (name : String) (field : Field α) (value : Except Json.ReadError (Option α)) :
    Except Json.ReadError (Field α) :=
  match field with
  | .absent => value.map ofOption
  | _ => .error (.mismatch (.duplicateField name))

end Field

/-- Members that are carried along, none of which has a reserved name. -/
structure Extra (reserved : List String) where
  members : Dict Json
  unreserved : ∀ name ∈ members.keys, name ∉ reserved

namespace Extra

variable {reserved : List String}

/-- No members. -/
def empty : Extra reserved := ⟨Dict.empty, by simp [Dict.keys, Dict.empty]⟩

instance : Inhabited (Extra reserved) := ⟨empty⟩

/-- Put in a member whose name is not reserved. -/
def insert (extra : Extra reserved) (name : String) (value : Json) (h : name ∉ reserved) :
    Extra reserved where
  members := extra.members.insert name value
  unreserved := fun other member => by
    rcases Dict.mem_keys_insertEntry member with rfl | old
    · exact h
    · exact extra.unreserved other old

/-- Keep, beside what has been kept before, the members without a reserved name
of a record that has been read to its end. -/
def keepMore (extra : Extra reserved) :
    List (Json.Key × Json.Document) → Except Json.ReadError (Extra reserved)
  | [] => .ok extra
  | (key, value) :: rest => do
    let name ← key.text
    if h : name ∉ reserved then
      let value ← Json.keep .aside value
      (extra.insert name value h).keepMore rest
    else extra.keepMore rest

/-- Keep the members without a reserved name of a record that has been read to its
end; the last one under a name counts. -/
def ofMembers (members : List (Json.Key × Json.Document)) :
    Except Json.ReadError (Extra reserved) :=
  empty.keepMore members

end Extra

/-! ## Grade entries -/

/-- The names of the members of a grade entry that grading interprets. -/
def gradeFields : List String :=
  ["manual_score", "auto_score", "extra_credit", "needs_manual_grade"]

/-- The grade entry of a cell. -/
structure GradeEntry where
  manualScore : Field Number
  autoScore : Field Number
  extraCredit : Field Number
  needsManualGrade : Field Bool
  extra : Extra gradeFields

namespace GradeEntry

/-- An entry without members. -/
def empty : GradeEntry := ⟨.absent, .absent, .absent, .absent, .empty⟩

instance : Inhabited GradeEntry := ⟨empty⟩

/-- The point budget that the service recorded, if any. -/
def maxScore? (entry : GradeEntry) : Option Float :=
  (entry.extra.members.get? "max_score").bind Json.float?

/-- The members of an entry; missing ones are left out. -/
def toDict (entry : GradeEntry) : Dict Json :=
  entry.extra.members
    |> entry.manualScore.write .number "manual_score"
    |> entry.autoScore.write .number "auto_score"
    |> entry.extraCredit.write .number "extra_credit"
    |> entry.needsManualGrade.write .bool "needs_manual_grade"

/-- The entry as a JSON object. -/
def toJson (entry : GradeEntry) : Json :=
  .ofDict entry.toDict

/-- Read one member of an entry, and check it if it is not interpreted. -/
def readMember (origin : Json.Origin) (entry : GradeEntry) (name : String)
    (value : Json.Document) : Except Json.ReadError GradeEntry :=
  if name = "manual_score" then do
    let manualScore ← entry.manualScore.read name (Json.nullable Json.numberReader origin value)
    return { entry with manualScore }
  else if name = "auto_score" then do
    let autoScore ← entry.autoScore.read name (Json.nullable Json.numberReader origin value)
    return { entry with autoScore }
  else if name = "extra_credit" then do
    let extraCredit ← entry.extraCredit.read name (Json.nullable Json.numberReader origin value)
    return { entry with extraCredit }
  else if name = "needs_manual_grade" then do
    let needsManualGrade ←
      entry.needsManualGrade.read name (Json.nullable Json.boolReader origin value)
    return { entry with needsManualGrade }
  else do
    Json.check origin value
    return entry

/-- Read a grade entry, none of whose members has to be there. -/
def reader : Json.Reader GradeEntry :=
  Json.objectReader "GradeEntry" fun origin members ending => do
    let entry ← Json.foldMembers (readMember origin) ending empty members
    let extra ← Extra.ofMembers members
    return { entry with extra }

end GradeEntry

/-! ## Comment entries -/

/-- The names of the members of a comment entry that grading interprets. -/
def commentFields : List String := ["manual_comment"]

/-- The comment entry of a cell. -/
structure CommentEntry where
  manualComment : Field String
  extra : Extra commentFields

namespace CommentEntry

/-- An entry without members. -/
def empty : CommentEntry := ⟨.absent, .empty⟩

instance : Inhabited CommentEntry := ⟨empty⟩

/-- The members of an entry; a missing comment is left out. -/
def toDict (entry : CommentEntry) : Dict Json :=
  entry.manualComment.write .string "manual_comment" entry.extra.members

/-- The entry as a JSON object. -/
def toJson (entry : CommentEntry) : Json :=
  .ofDict entry.toDict

/-- Read one member of an entry, and check it if it is not interpreted. -/
def readMember (origin : Json.Origin) (entry : CommentEntry) (name : String)
    (value : Json.Document) : Except Json.ReadError CommentEntry :=
  if name = "manual_comment" then do
    let manualComment ←
      entry.manualComment.read name (Json.nullable Json.stringReader origin value)
    return { entry with manualComment }
  else do
    Json.check origin value
    return entry

/-- Read a comment entry, none of whose members has to be there. -/
def reader : Json.Reader CommentEntry :=
  Json.objectReader "CommentEntry" fun origin members ending => do
    let entry ← Json.foldMembers (readMember origin) ending empty members
    let extra ← Extra.ofMembers members
    return { entry with extra }

end CommentEntry

/-! ## Notebooks -/

/-- The names of the members of a notebook's grading data that grading
interprets. -/
def notebookFields : List String := ["grades_dict", "comments_dict"]

/-- The grading data of one notebook. -/
structure NotebookGrades where
  grades : Dict GradeEntry
  comments : Dict CommentEntry
  extra : Extra notebookFields

namespace NotebookGrades

/-- A notebook without entries. -/
def empty : NotebookGrades := ⟨.empty, .empty, .empty⟩

instance : Inhabited NotebookGrades := ⟨empty⟩

/-- The members of a notebook's grading data. -/
def toDict (notebook : NotebookGrades) : Dict Json :=
  notebook.extra.members
    |>.insert "grades_dict" (.ofDict (notebook.grades.map GradeEntry.toJson))
    |>.insert "comments_dict" (.ofDict (notebook.comments.map CommentEntry.toJson))

/-- The notebook's grading data as a JSON object. -/
def toJson (notebook : NotebookGrades) : Json :=
  .ofDict notebook.toDict

/-- The members of a notebook read so far. -/
structure Fields where
  grades : Option (Dict GradeEntry) := none
  comments : Option (Dict CommentEntry) := none

/-- Read one member of a notebook, and check it if it is not interpreted. -/
def Fields.readMember (origin : Json.Origin) (fields : Fields) (name : String)
    (value : Json.Document) : Except Json.ReadError Fields :=
  if name = "grades_dict" then do
    let grades ← Json.once name fields.grades (Json.dictReader GradeEntry.reader origin value)
    return { fields with grades }
  else if name = "comments_dict" then do
    let comments ←
      Json.once name fields.comments (Json.dictReader CommentEntry.reader origin value)
    return { fields with comments }
  else do
    Json.check origin value
    return fields

/-- Read a notebook's grading data; both dictionaries have to be there. -/
def reader : Json.Reader NotebookGrades :=
  Json.objectReader "NotebookGrades" fun origin members ending => do
    let fields ← Json.foldMembers (Fields.readMember origin) ending {} members
    let grades ← Json.required "grades_dict" fields.grades
    let comments ← Json.required "comments_dict" fields.comments
    let extra ← Extra.ofMembers members
    return ⟨grades, comments, extra⟩

end NotebookGrades

end Gradebook
