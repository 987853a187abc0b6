import Gradebook.Proofs.Ledger.Entry

namespace Gradebook

namespace NotebookGrades

/-!
# Notebooks and their JSON objects

A notebook has two fields, which are dictionaries and have to be there.  Their
entries may carry values that reading changes, so a field shows the dictionary
that was read and not the JSON value that it was read from.

Otherwise a notebook is read as its entries are: `reader_object_iff` says what is
accepted, and `shape` what is given back.
-/

open Json (FieldReader Origin dictReader once_eq_ok_iff required_eq_ok_iff)

/-! ## Fields -/

/-- What a field shows. -/
def Fields.shown? (fields : Fields) (name : String) : Option (Dict GradeEntry ⊕ Dict CommentEntry) :=
  if name = "grades_dict" then fields.grades.map .inl
  else if name = "comments_dict" then fields.comments.map .inr
  else none

theorem shown?_grades (fields : Fields) :
    fields.shown? "grades_dict" = fields.grades.map .inl := by
  simp only [Fields.shown?, if_true]

theorem shown?_comments (fields : Fields) :
    fields.shown? "comments_dict" = fields.comments.map .inr := by
  simp only [Fields.shown?, String.reduceEq, if_true, if_false]

/-- What a field makes of a value. -/
def Holds (origin : Origin) (spell : String → List Char) (name : String) (value : Json) :
    Dict GradeEntry ⊕ Dict CommentEntry → Prop
  | .inl grades =>
    name = "grades_dict" ∧ dictReader GradeEntry.reader origin (value.spelled spell) = .ok grades
  | .inr comments =>
    name = "comments_dict" ∧
      dictReader CommentEntry.reader origin (value.spelled spell) = .ok comments

theorem mem_notebookFields {name : String} :
    name ∈ notebookFields ↔ name = "grades_dict" ∨ name = "comments_dict" := by
  simp only [notebookFields, List.mem_cons, List.not_mem_nil, or_false]

theorem shown?_of_not_mem {fields : Fields} {name : String} (other : name ∉ notebookFields) :
    fields.shown? name = none := by
  simp only [mem_notebookFields, not_or] at other
  rw [Fields.shown?, if_neg other.1, if_neg other.2]

theorem shown?_fresh (name : String) : ({} : Fields).shown? name = none := by
  simp only [Fields.shown?, Option.map_none, ite_self]

theorem fieldReader (origin : Origin) (spell : String → List Char) :
    FieldReader spell notebookFields (Holds origin spell) Fields.shown? (origin.Allows ·.depth)
      (Fields.readMember origin) where
  reads := by
    intro fields next name value field stepped
    rcases mem_notebookFields.1 field with rfl | rfl <;>
      obtain ⟨slot, stored, ⟨rfl⟩⟩ := Outcome.bind_eq_ok.1 stepped <;>
      obtain ⟨fresh, content, accepted, rfl⟩ := once_eq_ok_iff.1 stored
    · refine ⟨?_, .inl content, ⟨rfl, accepted⟩, rfl⟩
      rw [shown?_grades, fresh, Option.map_none]
    · refine ⟨?_, .inr content, ⟨rfl, accepted⟩, rfl⟩
      rw [shown?_comments, fresh, Option.map_none]
  frame := by
    intro fields next name other value differs stepped
    by_cases listed : other ∈ notebookFields
    · have distinct : other ≠ name := differs.resolve_right (not_not_intro listed)
      unfold Fields.readMember at stepped
      split_ifs at stepped with grades comments <;>
        obtain ⟨_, _, ⟨rfl⟩⟩ := Outcome.bind_eq_ok.1 stepped
      · simp only [Fields.shown?, ← grades, if_neg distinct]
      · simp only [Fields.shown?, ← comments, if_neg distinct]
      · rfl
    · rw [shown?_of_not_mem listed, shown?_of_not_mem listed]
  accepts := by
    intro fields name value fresh pass
    by_cases listed : name ∈ notebookFields
    · obtain ⟨unread, content, held⟩ := fresh listed
      cases content with
      | inl grades =>
          obtain ⟨rfl, accepted⟩ := held
          rw [shown?_grades, Option.map_eq_none_iff] at unread
          exact ⟨{ fields with grades := some grades }, Outcome.bind_eq_ok.2
            ⟨some grades, once_eq_ok_iff.2 ⟨unread, grades, accepted, rfl⟩, rfl⟩⟩
      | inr comments =>
          obtain ⟨rfl, accepted⟩ := held
          rw [shown?_comments, Option.map_eq_none_iff] at unread
          exact ⟨{ fields with comments := some comments }, Outcome.bind_eq_ok.2
            ⟨some comments, once_eq_ok_iff.2 ⟨unread, comments, accepted, rfl⟩, rfl⟩⟩
    · have checked : Json.check origin (value.spelled spell) = .ok () :=
        Json.check_spelled value origin (pass listed)
      simp only [mem_notebookFields, not_or] at listed
      refine ⟨fields, ?_⟩
      rw [Fields.readMember, if_neg listed.1, if_neg listed.2, checked]
      rfl

/-! ## The object of a notebook -/

variable {origin inner : Origin} {spell : String → List Char}

section Fields

variable {members : List (String × Json)} {fields : Fields}

theorem rel_shown? (distinct : (members.map Prod.fst).Nodup)
    (folded : Json.foldMembers (Fields.readMember inner) .closed {}
      (Json.spelledMembers spell members) = .ok fields)
    {name : String} (field : name ∈ notebookFields) :
    Option.Rel (Holds inner spell name) (members.lookup name) (fields.shown? name) :=
  (fieldReader inner spell).rel_view distinct field (shown?_fresh name) folded

/-- A slot holds what the member behind it was read as. -/
theorem slot_eq_some_iff {α : Type} {wrap : α → Dict GradeEntry ⊕ Dict CommentEntry}
    {read : Json → Except Json.ReadError α} {name : String} {value? : Option Json}
    {slot : Option α} (related : Option.Rel (Holds inner spell name) value? (slot.map wrap))
    (accepts : ∀ {value a}, Holds inner spell name value (wrap a) → read value = .ok a) {a : α} :
    slot = some a ↔ ∃ value, value? = some value ∧ read value = .ok a := by
  cases slot with
  | none =>
      rw [Option.map_none] at related
      cases value? with
      | none => simp only [reduceCtorEq, false_and, exists_false]
      | some value => cases related
  | some content =>
      rw [Option.map_some] at related
      obtain ⟨value, rfl, held⟩ := Json.exists_of_rel_some_right related
      simp only [Option.some.injEq, exists_eq_left', accepts held, Except.ok.injEq]

theorem grades_eq_some_iff (distinct : (members.map Prod.fst).Nodup)
    (folded : Json.foldMembers (Fields.readMember inner) .closed {}
      (Json.spelledMembers spell members) = .ok fields)
    {grades : Dict GradeEntry} :
    fields.grades = some grades ↔ ∃ value, members.lookup "grades_dict" = some value ∧
      dictReader GradeEntry.reader inner (value.spelled spell) = .ok grades := by
  have related := rel_shown? distinct folded (mem_notebookFields.2 (.inl rfl))
  rw [shown?_grades] at related
  exact slot_eq_some_iff related And.right

theorem comments_eq_some_iff (distinct : (members.map Prod.fst).Nodup)
    (folded : Json.foldMembers (Fields.readMember inner) .closed {}
      (Json.spelledMembers spell members) = .ok fields)
    {comments : Dict CommentEntry} :
    fields.comments = some comments ↔ ∃ value, members.lookup "comments_dict" = some value ∧
      dictReader CommentEntry.reader inner (value.spelled spell) = .ok comments := by
  have related := rel_shown? distinct folded (mem_notebookFields.2 (.inr rfl))
  rw [shown?_comments] at related
  exact slot_eq_some_iff related And.right

end Fields

/-- An object is read just when both dictionaries are there and what stands beside
them can be carried along. -/
theorem reader_object_iff (entered : origin.enter = .ok inner) {members : List (String × Json)}
    (allows : inner.Allows (Json.depthMembers members))
    (ascending : (members.map Prod.fst).Pairwise (· < ·)) {notebook : NotebookGrades} :
    reader origin ((Json.object members).spelled spell) = .ok notebook ↔
      (∃ value, members.lookup "grades_dict" = some value ∧
        dictReader GradeEntry.reader inner (value.spelled spell) = .ok notebook.grades) ∧
      (∃ value, members.lookup "comments_dict" = some value ∧
        dictReader CommentEntry.reader inner (value.spelled spell) = .ok notebook.comments) ∧
      Extra.ofMembers (Json.spelledMembers spell members) = .ok notebook.extra := by
  have distinct := Dict.nodup_of_ascending ascending
  rw [reader, Json.objectReader_spelled]
  constructor
  · rintro ⟨_, ⟨rfl⟩, other, enteredOther, read⟩
    cases Except.ok.inj (entered.symm.trans enteredOther)
    simp only [Outcome.bind_eq_ok, Outcome.pure_eq_ok, required_eq_ok_iff] at read
    obtain ⟨fields, folded, grades, gradesRead, comments, commentsRead, extra, kept, rfl⟩ := read
    exact ⟨(grades_eq_some_iff distinct folded).1 gradesRead,
      (comments_eq_some_iff distinct folded).1 commentsRead, kept⟩
  · rintro ⟨grades, comments, kept⟩
    have fit : ∀ member ∈ members, member.1 ∈ notebookFields →
        ∃ content, Holds inner spell member.1 member.2 content := by
      rintro ⟨name, value⟩ listed field
      have found := (Dict.lookup_eq_some_iff distinct).2 listed
      rcases mem_notebookFields.1 field with rfl | rfl
      · obtain ⟨_, looked, accepted⟩ := grades
        cases looked.symm.trans found
        exact ⟨.inl notebook.grades, rfl, accepted⟩
      · obtain ⟨_, looked, accepted⟩ := comments
        cases looked.symm.trans found
        exact ⟨.inr notebook.comments, rfl, accepted⟩
    have pass : ∀ member ∈ members, member.1 ∉ notebookFields → inner.Allows member.2.depth :=
      fun member listed _ => allows.mono (Json.depth_le_depthMembers listed)
    obtain ⟨fields, folded⟩ := (fieldReader inner spell).exists_foldMembers distinct
      (fun name _ _ => shown?_fresh name) fit pass
    refine ⟨members, rfl, inner, entered, ?_⟩
    simp only [Outcome.bind_eq_ok, Outcome.pure_eq_ok, required_eq_ok_iff]
    exact ⟨fields, folded, notebook.grades, (grades_eq_some_iff distinct folded).2 grades,
      notebook.comments, (comments_eq_some_iff distinct folded).2 comments, notebook.extra, kept,
      rfl⟩

theorem get?_toDict (notebook : NotebookGrades) (name : String) :
    notebook.toDict.get? name =
      if name = "comments_dict" then some (.ofDict (notebook.comments.map CommentEntry.toJson))
      else if name = "grades_dict" then some (.ofDict (notebook.grades.map GradeEntry.toJson))
      else notebook.extra.members.get? name := by
  simp only [toDict, Dict.get?_insert]

/-- A value in a notebook's object that grading does not interpret: a member
beside the fields of the notebook or of one of its entries. -/
inductive Uninterpreted (object value : Json) : Prop
  | beside {name : String} (member : object.member? name = some value)
    (other : name ∉ notebookFields)
  | grade {cell name : String} {dict entry : Json}
    (dictionary : object.member? "grades_dict" = some dict) (found : dict.member? cell = some entry)
    (member : entry.member? name = some value) (other : name ∉ gradeFields)
  | comment {cell name : String} {dict entry : Json}
    (dictionary : object.member? "comments_dict" = some dict)
    (found : dict.member? cell = some entry)
    (member : entry.member? name = some value) (other : name ∉ commentFields)

/-- A value that a notebook or one of its entries carries along. -/
inductive Carries (notebook : NotebookGrades) (value : Json) : Prop
  | beside {name : String} (member : notebook.extra.members.get? name = some value)
  | grade {cell name : String} {entry : GradeEntry} (found : notebook.grades.get? cell = some entry)
    (member : entry.extra.members.get? name = some value)
  | comment {cell name : String} {entry : CommentEntry}
    (found : notebook.comments.get? cell = some entry)
    (member : entry.extra.members.get? name = some value)

/-- Something holds of every value that is not interpreted just when it holds of those in
the entries of either dictionary and of those beside the fields. -/
theorem forall_uninterpreted_iff {object grades comments : Json} {property : Json → Prop}
    (gradesFound : object.member? "grades_dict" = some grades)
    (commentsFound : object.member? "comments_dict" = some comments) :
    (∀ value, Uninterpreted object value → property value) ↔
      grades.EachMember (fun entry => ∀ name value, entry.member? name = some value →
        name ∉ gradeFields → property value) ∧
      comments.EachMember (fun entry => ∀ name value, entry.member? name = some value →
        name ∉ commentFields → property value) ∧
      ∀ name value, object.member? name = some value → name ∉ notebookFields → property value := by
  constructor
  · intro every
    refine ⟨?_, ?_, fun name value member other => every value (.beside member other)⟩
    · exact fun cell entry found name value member other =>
        every value (.grade gradesFound found member other)
    · exact fun cell entry found name value member other =>
        every value (.comment commentsFound found member other)
  · rintro ⟨inGrades, inComments, beside⟩ value uninterpreted
    cases uninterpreted with
    | beside member other => exact beside _ value member other
    | grade dictionary found member other =>
        cases gradesFound.symm.trans dictionary
        exact inGrades _ _ found _ value member other
    | comment dictionary found member other =>
        cases commentsFound.symm.trans dictionary
        exact inComments _ _ found _ value member other

/-- Something holds of every value that is carried along just when it holds of those that
the entries and the notebook itself carry. -/
theorem forall_carries_iff {notebook : NotebookGrades} {property : Json → Prop} :
    (∀ value, notebook.Carries value → property value) ↔
      (∀ cell entry, notebook.grades.get? cell = some entry → entry.extra.Every property) ∧
      (∀ cell entry, notebook.comments.get? cell = some entry → entry.extra.Every property) ∧
      notebook.extra.Every property := by
  constructor
  · intro every
    refine ⟨?_, ?_, fun name value member => every value (.beside member)⟩
    · exact fun cell entry found name value member => every value (.grade found member)
    · exact fun cell entry found name value member => every value (.comment found member)
  · rintro ⟨inGrades, inComments, beside⟩ value carried
    cases carried with
    | beside member => exact beside _ value member
    | grade found member => exact inGrades _ _ found _ value member
    | comment found member => exact inComments _ _ found _ value member

theorem get?_toDict_of_not_mem (notebook : NotebookGrades) {name : String}
    (other : name ∉ notebookFields) :
    notebook.toDict.get? name = notebook.extra.members.get? name := by
  simp only [mem_notebookFields, not_or] at other
  rw [get?_toDict, if_neg other.2, if_neg other.1]

theorem get?_grades (notebook : NotebookGrades) :
    notebook.toDict.get? "grades_dict" =
      some (.ofDict (notebook.grades.map GradeEntry.toJson)) := by
  simp only [get?_toDict, String.reduceEq, if_true, if_false]

theorem get?_comments (notebook : NotebookGrades) :
    notebook.toDict.get? "comments_dict" =
      some (.ofDict (notebook.comments.map CommentEntry.toJson)) := by
  simp only [get?_toDict, if_true]

/-- Notebooks have a shape: what they and their entries carry along has to be
plain. -/
theorem shape : Json.Shape toJson reader (fun object => ∀ value, Uninterpreted object value →
    value.Plain) (fun notebook => ∀ value, notebook.Carries value → value.Canonical)
    (fun notebook => ∀ value, notebook.Carries value → value.Plain) where
  toJson_eq_iff := by
    intro origin spell value notebook allows canonical accepted
    obtain ⟨members, rfl, _⟩ := Json.objectReader_spelled.1 accepted
    simp only [Json.depth] at allows
    obtain ⟨inner, entered, allowsInner⟩ := allows.enter
    have parts := (reader_object_iff entered allowsInner canonical.1).1 accepted
    obtain ⟨⟨grades, gradesFound, gradesRead⟩, ⟨comments, commentsFound, commentsRead⟩, kept⟩ := parts
    have distinct := Dict.nodup_of_ascending canonical.1
    have listed : ∀ {name value}, members.lookup name = some value →
        inner.Allows value.depth ∧ value.Canonical := by
      intro name value found
      have member := (Dict.lookup_eq_some_iff distinct).1 found
      exact ⟨allowsInner.mono (Json.depth_le_depthMembers member),
        Json.canonicalMembers_iff.1 canonical.2 _ member⟩
    have gradesSame := GradeEntry.shape.dict.toJson_eq_iff (listed gradesFound).1
      (listed gradesFound).2 gradesRead
    have commentsSame := CommentEntry.shape.dict.toJson_eq_iff (listed commentsFound).1
      (listed commentsFound).2 commentsRead
    have fieldsSame : (∀ name ∈ notebookFields,
        notebook.toDict.get? name = members.lookup name) ↔
          grades.EachMember (Extra.PlainBeside gradeFields) ∧
            comments.EachMember (Extra.PlainBeside commentFields) := by
      simp only [mem_notebookFields, forall_eq_or_imp, forall_eq, get?_grades, get?_comments,
        gradesFound, commentsFound, Option.some.injEq, gradesSame, commentsSame]
    rw [toJson, Json.ofDict, Json.object.injEq, Extra.entries_eq_iff canonical kept
      fun name other => notebook.get?_toDict_of_not_mem other, fieldsSame, and_assoc]
    exact Iff.symm (forall_uninterpreted_iff gradesFound commentsFound)
  read_toJson_iff := by
    intro spell origin notebook allows sound
    obtain ⟨gradesSound, commentsSound, extraSound⟩ := forall_carries_iff.1 sound
    simp only [toJson, Json.ofDict, Json.depth] at allows
    obtain ⟨inner, entered, allowsInner⟩ := allows.enter
    have bounded : ∀ {name value}, notebook.toDict.get? name = some value →
        inner.Allows value.depth := fun found =>
      allowsInner.mono (Json.depth_le_depthMembers (Dict.get?_eq_some_iff.1 found))
    have gradesSame := GradeEntry.shape.dict.read_toJson_iff spell
      (bounded notebook.get?_grades) gradesSound
    have commentsSame := CommentEntry.shape.dict.read_toJson_iff spell
      (bounded notebook.get?_comments) commentsSound
    have extraSame := Extra.ofMembers_entries_iff spell extraSound
      fun name other => notebook.get?_toDict_of_not_mem other
    have gradesFound : notebook.toDict.entries.lookup "grades_dict" = _ := notebook.get?_grades
    have commentsFound : notebook.toDict.entries.lookup "comments_dict" = _ :=
      notebook.get?_comments
    rw [toJson, Json.ofDict, reader_object_iff entered allowsInner notebook.toDict.ascending,
      forall_carries_iff]
    simp only [gradesFound, commentsFound, Option.some.injEq, exists_eq_left', gradesSame,
      commentsSame, extraSame]

/-! ## Whatever is read -/

/-- The entries read so far carry along canonical values. -/
structure Fields.Canonical (fields : Fields) : Prop where
  grades : ∀ grades, fields.grades = some grades → ∀ cell entry,
    grades.get? cell = some entry → entry.extra.Every Json.Canonical
  comments : ∀ comments, fields.comments = some comments → ∀ cell entry,
    comments.get? cell = some entry → entry.extra.Every Json.Canonical

theorem canonical_readMember {origin : Origin} {fields next : Fields} {name : String}
    {document : Json.Document} (canonical : fields.Canonical)
    (stepped : fields.readMember origin name document = .ok next) : next.Canonical := by
  unfold Fields.readMember at stepped
  split_ifs at stepped <;> obtain ⟨slot, stored, ⟨rfl⟩⟩ := Outcome.bind_eq_ok.1 stepped
  · obtain ⟨_, grades, accepted, rfl⟩ := once_eq_ok_iff.1 stored
    refine ⟨?_, canonical.comments⟩
    rintro _ ⟨rfl⟩
    exact (GradeEntry.record.yields_canonical "GradeEntry").dict origin document grades accepted
  · obtain ⟨_, comments, accepted, rfl⟩ := once_eq_ok_iff.1 stored
    refine ⟨canonical.grades, ?_⟩
    rintro _ ⟨rfl⟩
    exact (CommentEntry.record.yields_canonical "CommentEntry").dict origin document comments
      accepted
  · exact canonical

/-- What a notebook that was read carries along is canonical. -/
theorem yields_canonical :
    Json.Yields reader fun notebook => ∀ value, notebook.Carries value → value.Canonical := by
  intro origin document notebook accepted
  obtain ⟨inner, members, ending, accepted⟩ := Json.exists_of_objectReader accepted
  simp only [Outcome.bind_eq_ok, Outcome.pure_eq_ok, required_eq_ok_iff] at accepted
  obtain ⟨fields, folded, grades, gradesRead, comments, commentsRead, extra, kept, rfl⟩ := accepted
  have fresh : Fields.Canonical {} := by
    constructor
    · intro grades impossible
      cases impossible
    · intro comments impossible
      cases impossible
  have canonical : fields.Canonical :=
    Json.foldMembers_induction (fun _ _ _ _ => canonical_readMember) fresh folded
  exact forall_carries_iff.2 ⟨canonical.grades grades gradesRead,
    canonical.comments comments commentsRead,
    Extra.canonical_keepMore (Extra.every_empty Json.Canonical) kept⟩

end NotebookGrades

end Gradebook
