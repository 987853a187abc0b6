import Gradebook.Proofs.Json.Acceptance
import Gradebook.Proofs.Ledger.Payload

namespace Gradebook

/-!
# The grammar of the payload

`Ledger.InGrammar` describes a payload from its JSON value alone: which objects
have to be there, and what may stand under the names that grading interprets.
Nothing is asked of a member under another name, at any level.

A payload is accepted just when it is in the grammar and the values that are not
interpreted resolve.  The second condition is the exception for embedded texts
and nothing else: where no such object stands among these values, a payload is
accepted just when it is in the grammar.
-/

open Json (Accepts Origin depth_le_depthMembers objectReader_spelled)

/-! ## Members that are carried along -/

namespace Extra

variable {reserved : List String} {spell : String → List Char}

theorem exists_keepMore_iff {extra : Extra reserved} {members : List (String × Json)} :
    (∃ result, extra.keepMore (Json.spelledMembers spell members) = .ok result) ↔
      ∀ member ∈ members, member.1 ∉ reserved → member.2.Resolves := by
  induction members generalizing extra with
  | nil =>
      simp only [Json.spelledMembers, keepMore, Except.ok.injEq, exists_eq', List.not_mem_nil,
        false_implies, implies_true]
  | cons member rest inductionHypothesis =>
      rcases member with ⟨key, value⟩
      rw [List.forall_mem_cons]
      by_cases taken : key ∈ reserved
      · simp only [keepMore_cons_of_reserved taken, inductionHypothesis, taken, not_true_eq_false,
          false_implies, true_and]
      · have unbounded : Origin.aside.Allows value.depth := trivial
        simp only [keepMore_cons_of_free taken, Outcome.bind_eq_ok, taken, not_false_eq_true,
          forall_const, ← Json.exists_keep_iff spell unbounded]
        constructor
        · rintro ⟨result, kept, keptValue, more⟩
          exact ⟨⟨kept, keptValue⟩, inductionHypothesis.1 ⟨result, more⟩⟩
        · rintro ⟨⟨kept, keptValue⟩, others⟩
          rcases inductionHypothesis.2 others with ⟨result, more⟩
          exact ⟨result, kept, keptValue, more⟩

/-- The members beside the reserved ones are kept just when they resolve. -/
theorem exists_ofMembers_iff {members : List (String × Json)}
    (distinct : (members.map Prod.fst).Nodup) :
    (∃ extra : Extra reserved, ofMembers (Json.spelledMembers spell members) = .ok extra) ↔
      ∀ name value, (Json.object members).member? name = some value → name ∉ reserved →
        value.Resolves := by
  refine exists_keepMore_iff.trans ?_
  constructor
  · intro each name value found
    exact each (name, value) ((Dict.lookup_eq_some_iff distinct).1 found)
  · intro each member listed
    exact each member.1 member.2 ((Dict.lookup_eq_some_iff distinct).2 listed)

end Extra

/-! ## Records -/

namespace Json.Record

variable {α : Type} {fields : List String} (record : Record α fields)

/-- A record is an object whose fields fit and whose other members resolve. -/
theorem accepts (type : String) :
    Accepts (record.reader type) fun value => value.IsObject ∧
      (∀ name ∈ fields, ∀ content, value.member? name = some content →
        record.Fits name content) ∧
      ∀ name content, value.member? name = some content → name ∉ fields → content.Resolves := by
  intro origin spell value allows canonical
  constructor
  · rintro ⟨a, accepted⟩
    rcases objectReader_spelled.1 accepted with ⟨members, rfl, _⟩
    simp only [depth] at allows
    rcases allows.enter with ⟨inner, entered, allowsInner⟩
    rcases (record.reader_object_iff entered allowsInner canonical.1).1 accepted with ⟨shown, kept⟩
    refine ⟨trivial, fun name field content found => ?_, ?_⟩
    · exact record.fits_of_member? ((shown name field).trans found)
    · exact (Extra.exists_ofMembers_iff (Dict.nodup_of_ascending canonical.1)).1 ⟨_, kept⟩
  · rintro ⟨object, fit, resolve⟩
    rcases isObject_iff.1 object with ⟨members, rfl⟩
    simp only [depth] at allows
    rcases allows.enter with ⟨inner, entered, allowsInner⟩
    have distinct := Dict.nodup_of_ascending canonical.1
    rcases (Extra.exists_ofMembers_iff distinct).2 resolve with ⟨extra, kept⟩
    have fits : ∀ member ∈ members, member.1 ∈ fields →
        ∃ content, record.Fits member.1 member.2 ∧ content = member.2 := by
      intro member listed field
      have found := (Dict.lookup_eq_some_iff distinct).2 listed
      exact ⟨member.2, fit member.1 field member.2 found, rfl⟩
    rcases (record.fieldReader inner spell).exists_foldMembers distinct
      (fun name _ _ => record.member?_empty name) fits
      (fun member listed _ => allowsInner.mono (depth_le_depthMembers listed)) with ⟨final, folded⟩
    refine ⟨record.withExtra final extra,
      (record.reader_object_iff entered allowsInner canonical.1).2 ⟨fun name field => ?_, ?_⟩⟩
    · rw [record.member?_withExtra, record.member?_of_foldMembers distinct folded field]
    · rw [record.extra_withExtra, kept]

end Json.Record

namespace GradeEntry

/-- What the JSON value of a grade entry has to look like. -/
structure InGrammar (entry : Json) : Prop where
  object : entry.IsObject
  /-- A score is a number of any kind or null, where it is there. -/
  score : ∀ name ∈ ["manual_score", "auto_score", "extra_credit"], ∀ value,
    entry.member? name = some value → value = .null ∨ ∃ n, value = .number n
  flag : ∀ value, entry.member? "needs_manual_grade" = some value →
    value = .null ∨ ∃ b, value = .bool b

theorem fits_iff_inGrammar {entry : Json} (object : entry.IsObject) :
    (∀ name ∈ gradeFields, ∀ value, entry.member? name = some value → Fits name value) ↔
      InGrammar entry := by
  constructor
  · intro fits
    refine ⟨object, ?_, ?_⟩
    · intro name listed value found
      simp only [List.mem_cons, List.not_mem_nil, or_false] at listed
      have field : name ∈ gradeFields := by
        rcases listed with rfl | rfl | rfl <;> decide
      have differs : name ≠ "needs_manual_grade" := by
        rcases listed with rfl | rfl | rfl <;> decide
      have fit := fits name field value found
      rwa [Fits, if_neg differs] at fit
    · intro value found
      have fit := fits "needs_manual_grade" (by decide) value found
      rwa [Fits, if_pos rfl] at fit
  · intro described name field value found
    by_cases flag : name = "needs_manual_grade"
    · subst flag
      rw [Fits, if_pos rfl]
      exact described.flag value found
    · rw [Fits, if_neg flag]
      refine described.score name ?_ value found
      simp only [gradeFields, List.mem_cons, List.not_mem_nil, or_false] at field ⊢
      rcases field with manual | auto | credit | marked
      · exact .inl manual
      · exact .inr (.inl auto)
      · exact .inr (.inr credit)
      · exact absurd marked flag

theorem accepts : Accepts reader fun entry => InGrammar entry ∧
    ∀ name value, entry.member? name = some value → name ∉ gradeFields → value.Resolves := by
  intro origin spell entry allows canonical
  refine (record.accepts "GradeEntry" allows canonical).trans ?_
  constructor
  · rintro ⟨object, fits, resolve⟩
    exact ⟨(fits_iff_inGrammar object).1 fits, resolve⟩
  · rintro ⟨described, resolve⟩
    exact ⟨described.object, (fits_iff_inGrammar described.object).2 described, resolve⟩

end GradeEntry

namespace CommentEntry

/-- What the JSON value of a comment entry has to look like. -/
structure InGrammar (entry : Json) : Prop where
  object : entry.IsObject
  comment : ∀ value, entry.member? "manual_comment" = some value →
    value = .null ∨ ∃ s, value = .string s

theorem accepts : Accepts reader fun entry => InGrammar entry ∧
    ∀ name value, entry.member? name = some value → name ∉ commentFields → value.Resolves := by
  intro origin spell entry allows canonical
  refine (record.accepts "CommentEntry" allows canonical).trans ?_
  constructor
  · rintro ⟨object, fits, resolve⟩
    exact ⟨⟨object, fits "manual_comment" (mem_commentFields.2 rfl)⟩, resolve⟩
  · rintro ⟨described, resolve⟩
    refine ⟨described.object, fun name field value found => ?_, resolve⟩
    cases mem_commentFields.1 field
    exact described.comment value found

end CommentEntry

/-! ## Notebooks and ledgers -/

namespace NotebookGrades

/-- What the JSON value of a notebook has to look like: both dictionaries are
there. -/
structure InGrammar (notebook : Json) : Prop where
  object : notebook.IsObject
  grades : ∃ entries, notebook.member? "grades_dict" = some entries ∧ entries.IsObject ∧
    entries.EachMember GradeEntry.InGrammar
  comments : ∃ entries, notebook.member? "comments_dict" = some entries ∧ entries.IsObject ∧
    entries.EachMember CommentEntry.InGrammar

theorem accepts : Accepts reader fun notebook => InGrammar notebook ∧
    ∀ value, Uninterpreted notebook value → value.Resolves := by
  intro origin spell value allows canonical
  constructor
  · rintro ⟨notebook, accepted⟩
    rcases objectReader_spelled.1 accepted with ⟨members, rfl, _⟩
    simp only [Json.depth] at allows
    rcases allows.enter with ⟨inner, entered, allowsInner⟩
    rcases (reader_object_iff entered allowsInner canonical.1).1 accepted with
      ⟨⟨grades, gradesFound, gradesRead⟩, ⟨comments, commentsFound, commentsRead⟩, kept⟩
    rcases (GradeEntry.accepts.dict.of_member allowsInner canonical gradesFound).1
      ⟨_, gradesRead⟩ with ⟨gradesObject, gradesEach⟩
    rcases (CommentEntry.accepts.dict.of_member allowsInner canonical commentsFound).1
      ⟨_, commentsRead⟩ with ⟨commentsObject, commentsEach⟩
    rcases Json.eachMember_and.1 gradesEach with ⟨gradesDescribed, gradesResolve⟩
    rcases Json.eachMember_and.1 commentsEach with ⟨commentsDescribed, commentsResolve⟩
    have besideResolve :=
      (Extra.exists_ofMembers_iff (Dict.nodup_of_ascending canonical.1)).1 ⟨_, kept⟩
    exact ⟨⟨trivial, ⟨grades, gradesFound, gradesObject, gradesDescribed⟩,
      ⟨comments, commentsFound, commentsObject, commentsDescribed⟩⟩,
      Iff.mpr (forall_uninterpreted_iff gradesFound commentsFound)
        ⟨gradesResolve, commentsResolve, besideResolve⟩⟩
  · rintro ⟨⟨object, ⟨grades, gradesFound, gradesObject, gradesDescribed⟩,
      ⟨comments, commentsFound, commentsObject, commentsDescribed⟩⟩, resolve⟩
    rcases (forall_uninterpreted_iff gradesFound commentsFound).1 resolve with
      ⟨gradesResolve, commentsResolve, besideResolve⟩
    rcases Json.isObject_iff.1 object with ⟨members, rfl⟩
    simp only [Json.depth] at allows
    rcases allows.enter with ⟨inner, entered, allowsInner⟩
    rcases (GradeEntry.accepts.dict.of_member allowsInner canonical gradesFound).2
      ⟨gradesObject, Json.eachMember_and.2 ⟨gradesDescribed, gradesResolve⟩⟩ with
      ⟨readGrades, gradesRead⟩
    rcases (CommentEntry.accepts.dict.of_member allowsInner canonical commentsFound).2
      ⟨commentsObject, Json.eachMember_and.2 ⟨commentsDescribed, commentsResolve⟩⟩ with
      ⟨readComments, commentsRead⟩
    rcases (Extra.exists_ofMembers_iff (Dict.nodup_of_ascending canonical.1)).2 besideResolve with
      ⟨extra, kept⟩
    exact ⟨⟨readGrades, readComments, extra⟩,
      (reader_object_iff entered allowsInner canonical.1).2
        ⟨⟨grades, gradesFound, gradesRead⟩, ⟨comments, commentsFound, commentsRead⟩, kept⟩⟩

end NotebookGrades

namespace Ledger

/-- What the JSON value of a payload has to look like. -/
structure InGrammar (payload : Json) : Prop where
  object : payload.IsObject
  notebooks : payload.EachMember NotebookGrades.InGrammar

theorem accepts : Accepts reader fun payload => InGrammar payload ∧
    ∀ value, Uninterpreted payload value → value.Resolves := by
  intro origin spell payload allows canonical
  have notebooks : (∃ dict, Json.dictReader NotebookGrades.reader origin (payload.spelled spell) =
      .ok dict) ↔ _ := NotebookGrades.accepts.dict allows canonical
  constructor
  · rintro ⟨ledger, accepted⟩
    rcases notebooks.1 ⟨_, reader_eq_ok_iff.1 accepted⟩ with ⟨object, each⟩
    refine ⟨⟨object, fun notebook content found => (each notebook content found).1⟩, ?_⟩
    rintro value ⟨notebook, content, found, uninterpreted⟩
    exact (each notebook content found).2 value uninterpreted
  · rintro ⟨described, resolve⟩
    rcases notebooks.2 ⟨described.object, fun notebook content found =>
      ⟨described.notebooks notebook content found, fun value uninterpreted =>
        resolve value ⟨notebook, content, found, uninterpreted⟩⟩⟩ with ⟨dict, accepted⟩
    exact ⟨⟨dict⟩, reader_eq_ok_iff.2 accepted⟩

/-- A payload is accepted just when it is in the grammar and its uninterpreted
values can be kept.  Where none of these holds an embedded text, the grammar alone
decides. -/
theorem ofJson_accepts_iff {payload : Json} (canonical : payload.Canonical) :
    ((∃ ledger, ofJson payload = .ok ledger) ↔
      InGrammar payload ∧ ∀ value, Uninterpreted payload value → value.Resolves) ∧
    ((∀ value, Uninterpreted payload value → value.Plain) →
      ((∃ ledger, ofJson payload = .ok ledger) ↔ InGrammar payload)) := by
  have unbounded : Origin.value.Allows payload.depth := trivial
  have exact : (∃ ledger, ofJson payload = .ok ledger) ↔
      InGrammar payload ∧ ∀ value, Uninterpreted payload value → value.Resolves := by
    simp only [ofJson, Json.readValue, Json.toDocument_eq_spelled]
    exact accepts unbounded canonical
  refine ⟨exact, fun plain => exact.trans (and_iff_left fun value uninterpreted => ?_)⟩
  exact (plain value uninterpreted).resolves

/-- The grammar allows any member under another name, and yet a payload in the
grammar is refused where such a member begins with the embedding key and goes on
behind it. -/
theorem refused_in_grammar :
    ∃ payload : Json, payload.Canonical ∧ InGrammar payload ∧
      ¬ ∃ ledger, ofJson payload = .ok ledger := by
  let embedding := Json.object [(Json.embeddingKey, .string "1"), ("a", .number (.natural 2))]
  let entry := Json.object [("x", embedding)]
  let object := Json.object [("comments_dict", .object []),
    ("grades_dict", .object [("c", entry)])]
  let payload := Json.object [("h", object)]
  have canonical : payload.Canonical := by
    simp only [payload, object, entry, embedding, Json.Canonical, Json.CanonicalMembers,
      List.map_cons, List.map_nil, and_true]
    decide
  have entryInGrammar : GradeEntry.InGrammar entry := by
    refine ⟨trivial, fun name listed value found => ?_, fun value found => nomatch found⟩
    simp only [List.mem_cons, List.not_mem_nil, or_false] at listed
    rcases listed with rfl | rfl | rfl <;> cases found
  have objectInGrammar : NotebookGrades.InGrammar object := by
    refine ⟨trivial, ⟨.object [("c", entry)], rfl, trivial, ?_⟩, ⟨.object [], rfl, trivial, nofun⟩⟩
    exact Json.eachMember_of_forall fun member listed => List.mem_singleton.1 listed ▸ entryInGrammar
  have payloadInGrammar : InGrammar payload :=
    ⟨trivial, Json.eachMember_of_forall fun member listed =>
      List.mem_singleton.1 listed ▸ objectInGrammar⟩
  have found : (Json.object [("c", entry)]).member? "c" = some entry := rfl
  have member : entry.member? "x" = some embedding := rfl
  have uninterpreted : Uninterpreted payload embedding :=
    ⟨"h", object, rfl, .grade rfl found member (by decide)⟩
  have unresolved : ¬ embedding.Resolves := by
    simp only [embedding, Json.Resolves]
    rintro (⟨_, text, inner, alone, _⟩ | ⟨differs, _⟩)
    · cases alone
    · exact differs rfl
  refine ⟨payload, canonical, payloadInGrammar, fun accepted => ?_⟩
  have resolve := ((ofJson_accepts_iff canonical).1.1 accepted).2
  exact unresolved (resolve embedding uninterpreted)

end Ledger

end Gradebook
