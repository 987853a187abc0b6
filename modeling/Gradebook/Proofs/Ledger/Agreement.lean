import Gradebook.Proofs.Json.Agreement
import Gradebook.Proofs.Ledger.Durable
import Gradebook.Proofs.Ledger.Grammar

namespace Gradebook

/-!
# Payloads that are read at once

A payload is read off its text at once by a client, and off the value that was kept of the
text by the service.  For literal payloads the two agree at each level: the entries are
records of scalars, a notebook is a record of dictionaries of entries, and a ledger is a
dictionary of notebooks.
-/

open Json (Agreement FieldAgreement Document Origin check checked_eq_ok_iff once_eq_ok_iff
  required_eq_ok_iff)

/-! ## Entries -/

namespace Field

variable {α : Type} {origin : Origin} {document : Document}

/-- What a document is that is read as a scalar. -/
def Written (toJson : α → Json) (read : Json.Reader α) : Prop :=
  ∀ {origin : Origin} {document : Document} {a : α}, read origin document = .ok a →
    document = (toJson a).spelled String.toList

theorem written_number : Written Json.number Json.numberReader := by
  intro origin document n accepted
  rw [Json.numberReader.eq_def] at accepted
  split at accepted
  · rw [Json.spelled, Except.ok.inj accepted]
  · exact absurd accepted Json.refuse_ne_ok

theorem written_bool : Written Json.bool Json.boolReader := by
  intro origin document b accepted
  rw [Json.boolReader.eq_def] at accepted
  split at accepted
  · rw [Json.spelled, Except.ok.inj accepted]
  · exact absurd accepted Json.refuse_ne_ok

theorem written_string : Written Json.string Json.stringReader := by
  intro origin document s accepted
  rw [Json.stringReader, Json.textReader.eq_def] at accepted
  split at accepted
  · rw [Json.spelled, Except.ok.inj accepted]
  · exact absurd accepted Json.refuse_ne_ok

/-- A member that may be null is read off the document of a value. -/
theorem exists_spelled_of_read {toJson : α → Json} {read : Json.Reader α}
    (written : Written toJson read) {name : String} {field result : Field α}
    (stored : Field.read name field (Json.nullable read origin document) = .ok result) :
    ∃ value : Json, document = value.spelled String.toList := by
  cases field with
  | null | value a => simp only [Field.read, reduceCtorEq] at stored
  | absent =>
      rcases Outcome.map_eq_ok.1 stored with ⟨content, readContent, _⟩
      cases document with
      | null => exact ⟨.null, by rw [Json.spelled]⟩
      | bool b | number n | string content | array items ending | object members ending
      | broken fault =>
          rcases Outcome.bind_eq_ok.1 readContent with ⟨a, accepted, _⟩
          exact ⟨toJson a, written accepted⟩

end Field

namespace GradeEntry

/-- Whether no part of a grade entry that grading interprets is an embedded value. -/
def literal : Document → Bool :=
  Document.literal (Json.literalBeside gradeFields)

theorem scalar_of_fits (name : String) (value : Json) (fits : Fits name value) : value.Scalar := by
  rcases fits with rfl | fits
  · trivial
  · split_ifs at fits <;> rcases fits with ⟨_, rfl⟩ <;> trivial

theorem exists_spelled_of_readMember {origin : Origin} {entry next : GradeEntry} {name : String}
    {document : Document} (field : name ∈ gradeFields)
    (stepped : readMember origin entry name document = .ok next) :
    ∃ value : Json, document = value.spelled String.toList := by
  simp only [gradeFields, List.mem_cons, List.not_mem_nil, or_false] at field
  rcases field with rfl | rfl | rfl | rfl <;>
    simp only [readMember, String.reduceEq, if_true, if_false] at stepped <;>
    rcases Outcome.bind_eq_ok.1 stepped with ⟨_, stored, _⟩
  · exact Field.exists_spelled_of_read Field.written_number stored
  · exact Field.exists_spelled_of_read Field.written_number stored
  · exact Field.exists_spelled_of_read Field.written_number stored
  · exact Field.exists_spelled_of_read Field.written_bool stored

theorem readMember_of_other {origin : Origin} {entry next : GradeEntry} {name : String}
    {document : Document} (other : name ∉ gradeFields) :
    readMember origin entry name document = .ok next ↔
      check origin document = .ok () ∧ next = entry := by
  simp only [gradeFields, List.mem_cons, List.not_mem_nil, or_false, not_or] at other
  simp only [readMember, other, if_false]
  exact checked_eq_ok_iff

theorem agreement : Agreement toJson reader literal :=
  record.agreement scalar_of_fits exists_spelled_of_readMember readMember_of_other "GradeEntry"

end GradeEntry

namespace CommentEntry

/-- Whether no part of a comment entry that grading interprets is an embedded value. -/
def literal : Document → Bool :=
  Document.literal (Json.literalBeside commentFields)

theorem scalar_of_fits (name : String) (value : Json) (fits : Fits name value) : value.Scalar := by
  rcases fits with rfl | ⟨_, rfl⟩ <;> trivial

theorem exists_spelled_of_readMember {origin : Origin} {entry next : CommentEntry} {name : String}
    {document : Document} (field : name ∈ commentFields)
    (stepped : readMember origin entry name document = .ok next) :
    ∃ value : Json, document = value.spelled String.toList := by
  cases mem_commentFields.1 field
  rcases Outcome.bind_eq_ok.1 stepped with ⟨_, stored, _⟩
  exact Field.exists_spelled_of_read Field.written_string stored

theorem readMember_of_other {origin : Origin} {entry next : CommentEntry} {name : String}
    {document : Document} (other : name ∉ commentFields) :
    readMember origin entry name document = .ok next ↔
      check origin document = .ok () ∧ next = entry := by
  rw [mem_commentFields] at other
  rw [readMember, if_neg other]
  exact checked_eq_ok_iff

theorem agreement : Agreement toJson reader literal :=
  record.agreement scalar_of_fits exists_spelled_of_readMember readMember_of_other "CommentEntry"

end CommentEntry

/-! ## Notebooks -/

namespace NotebookGrades

/-- Whether a member of a notebook is a dictionary of literal entries, if it is one of the
two that grading interprets. -/
def literalMember (name : String) (document : Document) : Bool :=
  if name = "grades_dict" then document.literal fun _ => GradeEntry.literal
  else if name = "comments_dict" then document.literal fun _ => CommentEntry.literal
  else true

/-- Whether no part of a notebook that grading interprets is an embedded value. -/
def literal : Document → Bool :=
  Document.literal literalMember

/-- The JSON value of a field that has been read. -/
def Fields.json? (fields : Fields) (name : String) : Option Json :=
  if name = "grades_dict" then fields.grades.map fun dict => .ofDict (dict.map GradeEntry.toJson)
  else if name = "comments_dict" then
    fields.comments.map fun dict => .ofDict (dict.map CommentEntry.toJson)
  else none

theorem Fields.json?_grades (fields : Fields) :
    fields.json? "grades_dict" =
      fields.grades.map fun dict => .ofDict (dict.map GradeEntry.toJson) := by
  simp only [Fields.json?, if_true]

theorem Fields.json?_comments (fields : Fields) :
    fields.json? "comments_dict" =
      fields.comments.map fun dict => .ofDict (dict.map CommentEntry.toJson) := by
  simp only [Fields.json?, String.reduceEq, if_true, if_false]

/-- Whether a value can be read as the field under a name. -/
def Fits (name : String) (value : Json) : Prop :=
  ∃ content, Holds .value String.toList name value content

theorem fieldAgreement (origin : Origin) :
    FieldAgreement origin notebookFields literalMember Fits Fields.json?
      (Fields.readMember origin) where
  reads := by
    intro fields next name document field literal stepped
    rcases mem_notebookFields.1 field with rfl | rfl <;>
      rcases Outcome.bind_eq_ok.1 stepped with ⟨slot, stored, ⟨rfl⟩⟩ <;>
      rcases once_eq_ok_iff.1 stored with ⟨fresh, content, accepted, rfl⟩
    · refine ⟨?_, _, GradeEntry.agreement.dict.keep_of_read literal accepted, rfl⟩
      rw [Fields.json?_grades, fresh, Option.map_none]
    · refine ⟨?_, _, CommentEntry.agreement.dict.keep_of_read literal accepted, rfl⟩
      rw [Fields.json?_comments, fresh, Option.map_none]
  frame := by
    intro fields next name other document differs _ stepped
    unfold Fields.readMember at stepped
    split_ifs at stepped with grades comments <;>
      rcases Outcome.bind_eq_ok.1 stepped with ⟨_, _, ⟨rfl⟩⟩
    · simp only [Fields.json?, ← grades, if_neg differs]
    · simp only [Fields.json?, ← comments, if_neg differs]
    · rfl
  accepts := by
    intro fields name document value field literal distinct unread kept fits
    rcases fits with ⟨grades | comments, rfl, accepted⟩
    · rcases GradeEntry.agreement.dict.exists_read literal distinct kept accepted with
        ⟨dict, readDict⟩
      rw [Fields.json?_grades, Option.map_eq_none_iff] at unread
      exact ⟨{ fields with grades := some dict }, Outcome.bind_eq_ok.2
        ⟨some dict, once_eq_ok_iff.2 ⟨unread, dict, readDict, rfl⟩, rfl⟩⟩
    · rcases CommentEntry.agreement.dict.exists_read literal distinct kept accepted with
        ⟨dict, readDict⟩
      rw [Fields.json?_comments, Option.map_eq_none_iff] at unread
      exact ⟨{ fields with comments := some dict }, Outcome.bind_eq_ok.2
        ⟨some dict, once_eq_ok_iff.2 ⟨unread, dict, readDict, rfl⟩, rfl⟩⟩
  passes := by
    intro fields next name document other
    simp only [mem_notebookFields, not_or] at other
    rw [Fields.readMember, if_neg other.1, if_neg other.2]
    exact checked_eq_ok_iff

theorem json?_fresh (name : String) : ({} : Fields).json? name = none := by
  simp only [Fields.json?, Option.map_none, ite_self]

theorem agreement : Agreement toJson reader literal where
  keep_of_read := by
    intro origin document notebook passes accepted
    cases document with
    | object members ending =>
        rcases Outcome.bind_eq_ok.1 accepted with ⟨inner, entered, accepted⟩
        simp only [Outcome.bind_eq_ok, Outcome.pure_eq_ok, required_eq_ok_iff] at accepted
        rcases accepted with
          ⟨fields, folded, grades, gradesRead, comments, commentsRead, extra, carried, rfl⟩
        refine (fieldAgreement inner).keep_object entered passes json?_fresh folded carried
          fun name => ?_
        by_cases field : name ∈ notebookFields
        · rw [if_pos field]
          rcases mem_notebookFields.1 field with rfl | rfl
          · rw [Fields.json?_grades, gradesRead, get?_grades, Option.map_some]
          · rw [Fields.json?_comments, commentsRead, get?_comments, Option.map_some]
        · rw [if_neg field, get?_toDict_of_not_mem _ field]
    | null | bool b | number n | string content | array items ending | broken fault =>
        exact absurd accepted Json.refuse_ne_ok
  exists_read := by
    intro origin document value notebook passes distinct kept accepted
    rcases Json.objectReader_spelled.1 accepted with ⟨members, rfl, _⟩
    rcases Json.exists_of_keep_object (Json.unembedded_of_literal passes) kept with
      ⟨documents, inner, values, rfl, entered, keptAll, rfl⟩
    have unbounded : Origin.value.Allows (Json.depthMembers (Dict.ofList values).entries) := trivial
    rcases (reader_object_iff rfl unbounded (Dict.ofList values).ascending).1 accepted with
      ⟨⟨grades, gradesFound, gradesRead⟩, ⟨comments, commentsFound, commentsRead⟩, _⟩
    have fit : ∀ name ∈ notebookFields, ∀ value, (Dict.ofList values).get? name = some value →
        Fits name value := by
      intro name field value found
      rcases mem_notebookFields.1 field with rfl | rfl
      · cases gradesFound.symm.trans found
        exact ⟨.inl notebook.grades, rfl, gradesRead⟩
      · cases commentsFound.symm.trans found
        exact ⟨.inr notebook.comments, rfl, commentsRead⟩
    rcases (fieldAgreement inner).exists_shows_of_keepAll passes distinct keptAll fit json?_fresh
      with ⟨fields, extra, folded, carried, shows⟩
    -- both fields have been read, since the object that is kept has both members
    have shownGrades := (shows "grades_dict").symm.trans gradesFound
    have shownComments := (shows "comments_dict").symm.trans commentsFound
    rw [if_pos (mem_notebookFields.2 (.inl rfl)), Fields.json?_grades, Option.map_eq_some_iff]
      at shownGrades
    rw [if_pos (mem_notebookFields.2 (.inr rfl)), Fields.json?_comments, Option.map_eq_some_iff]
      at shownComments
    rcases shownGrades with ⟨ownGrades, readGrades, _⟩
    rcases shownComments with ⟨ownComments, readComments, _⟩
    refine ⟨⟨ownGrades, ownComments, extra⟩, ?_⟩
    simp only [reader, Json.objectReader, entered, folded, readGrades, readComments, Json.required,
      carried, Outcome.ok_bind]
    rfl

end NotebookGrades

/-! ## Ledgers -/

namespace Ledger

/-- Whether no part of a payload that grading interprets is an embedded value. -/
def literal : Document → Bool :=
  Document.literal fun _ => NotebookGrades.literal

theorem agreement : Agreement toJson reader literal where
  keep_of_read passes accepted :=
    NotebookGrades.agreement.dict.keep_of_read passes (reader_eq_ok_iff.1 accepted)
  exists_read := by
    intro origin document value ledger passes distinct kept accepted
    rcases NotebookGrades.agreement.dict.exists_read passes distinct kept
      (reader_eq_ok_iff.1 accepted) with ⟨dict, readDict⟩
    exact ⟨⟨dict⟩, reader_eq_ok_iff.2 readDict⟩

/-! ## Texts -/

/-- A text is kept as a value, and the value is read as a ledger. -/
def ReadAsValue (text : String) (ledger : Ledger) : Prop :=
  ∃ payload, Json.readText Json.keep text = .ok payload ∧ ofJson payload = .ok ledger

variable {text : String} {payload : Json} {ledger : Ledger}

theorem ofJson_eq_reader (payload : Json) :
    ofJson payload = reader .value (payload.spelled String.toList) := by
  rw [ofJson, Json.readValue, Json.toDocument_eq_spelled]

/-- A kept payload that is accepted as a value has no embedded text where it is not
interpreted, so the ledger writes it again. -/
theorem toJson_of_kept (kept : Json.readText Json.keep text = .ok payload)
    (accepted : ofJson payload = .ok ledger) :
    ledger.toJson = payload ∧ ∀ value, Uninterpreted payload value → value.Plain := by
  have canonical : payload.Canonical := Json.yields_canonical_keep.text kept
  have unbare : payload.Unbare := Json.yields_unbare_keep.text kept
  have unbounded : Origin.value.Allows payload.depth := trivial
  rw [ofJson_eq_reader] at accepted
  have plain : ∀ value, Uninterpreted payload value → value.Plain := by
    intro value uninterpreted
    have resolves := ((accepts unbounded canonical).1 ⟨ledger, accepted⟩).2 value uninterpreted
    exact resolves.plain_of_unbare value
      (inherited_of_uninterpreted Json.Unbare.member unbare uninterpreted)
  exact ⟨(shape.toJson_eq_iff unbounded canonical accepted).2 plain, plain⟩

/-- A ledger that was read off a text is read off the value that is kept of it, just when
this value is the payload of the ledger and the values that are carried along are plain. -/
theorem readAsValue_iff_of_ofText (read : ofText text = .ok ledger) :
    ReadAsValue text ledger ↔ Json.readText Json.keep text = .ok ledger.toJson ∧
      ∀ value, ledger.Carries value → value.Plain := by
  constructor
  · rintro ⟨payload, kept, accepted⟩
    rcases toJson_of_kept kept accepted with ⟨rfl, plain⟩
    exact ⟨kept, fun value carried => plain value (uninterpreted_of_carries carried)⟩
  · rintro ⟨kept, plain⟩
    have unbounded : Origin.value.Allows ledger.toJson.depth := trivial
    have reachable : ledger.Reachable := .ofText read
    refine ⟨ledger.toJson, kept, ?_⟩
    rw [ofJson_eq_reader]
    exact (shape.read_toJson_iff String.toList unbounded
      fun value carried => reachable.canonical carried).2 plain

/-- The text of a literal payload is kept as the payload of the ledger that is read. -/
theorem readText_keep_of_ofText (literal : Ledger.literal (Json.parse text).document = true)
    (read : ofText text = .ok ledger) : Json.readText Json.keep text = .ok ledger.toJson := by
  rcases Json.readText_eq_ok_iff.1 read with ⟨accepted, whole⟩
  exact Json.readText_eq_ok_iff.2 ⟨agreement.keep_of_read literal accepted, whole⟩

/-- A literal payload that repeats no key is read off its text just when it is read off the
value that is kept of it, but for values that stand for an embedded text. -/
theorem readAsValue_iff (literal : Ledger.literal (Json.parse text).document = true)
    (distinct : (Json.parse text).document.distinct = true) :
    ReadAsValue text ledger ↔
      ofText text = .ok ledger ∧ ∀ value, ledger.Carries value → value.Plain := by
  constructor
  · rintro ⟨payload, kept, accepted⟩
    rcases toJson_of_kept kept accepted with ⟨_, plain⟩
    rcases Json.readText_eq_ok_iff.1 kept with ⟨keptDocument, whole⟩
    rcases agreement.exists_read literal distinct keptDocument
      ((ofJson_eq_reader payload).symm.trans accepted) with ⟨other, readOther⟩
    have read : ofText text = .ok other := Json.readText_eq_ok_iff.2 ⟨readOther, whole⟩
    -- what was read writes the payload that was kept, and is read off it again
    have keptOther := readText_keep_of_ofText literal read
    cases kept.symm.trans keptOther
    have plainOther : ∀ value, other.Carries value → value.Plain :=
      fun value carried => plain value (uninterpreted_of_carries carried)
    rcases (readAsValue_iff_of_ofText read).2 ⟨keptOther, plainOther⟩ with
      ⟨_, keptAgain, acceptedOther⟩
    cases keptOther.symm.trans keptAgain
    cases accepted.symm.trans acceptedOther
    exact ⟨read, plainOther⟩
  · rintro ⟨read, plain⟩
    exact (readAsValue_iff_of_ofText read).2 ⟨readText_keep_of_ofText literal read, plain⟩

end Ledger

end Gradebook
