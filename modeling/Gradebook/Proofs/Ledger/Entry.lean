import Gradebook.Proofs.Ledger.Record

namespace Gradebook

/-!
# Entries and their JSON objects

An entry shows each of its recognised members as a JSON value or as missing.
These views carry both directions of the payload: writing an entry makes the
object with exactly the members shown, and reading an object makes the entry that
shows exactly its members.  A member that is null is shown as null and one that
is missing as missing, so neither direction can turn the one into the other.
-/

open Json (FieldReader Origin)

namespace Field

variable {α : Type}

/-- The JSON value of a member; a missing one has none. -/
def json? (toJson : α → Json) : Field α → Option Json
  | .absent => none
  | .null => some .null
  | .value a => some (toJson a)

theorem json?_eq_none_iff {toJson : α → Json} {field : Field α} :
    field.json? toJson = none ↔ field = .absent := by
  cases field <;> simp only [json?, reduceCtorEq]

theorem exists_json?_iff {toJson : α → Json} {value : Json} :
    (∃ field : Field α, field.json? toJson = some value) ↔
      value = .null ∨ ∃ a, value = toJson a := by
  constructor
  · rintro ⟨field, shown⟩
    cases field with
    | absent => cases shown
    | null => exact .inl (Option.some.inj shown).symm
    | value a => exact .inr ⟨a, (Option.some.inj shown).symm⟩
  · rintro (rfl | ⟨a, rfl⟩)
    · exact ⟨.null, rfl⟩
    · exact ⟨.value a, rfl⟩

theorem get?_write (toJson : α → Json) (name other : String) (field : Field α)
    (object : Dict Json) :
    (field.write toJson name object).get? other =
      if other = name then (field.json? toJson).or (object.get? other) else object.get? other := by
  cases field with
  | absent => simp only [write, json?, Option.none_or, ite_self]
  | null | value a => simp only [write, json?, Dict.get?_insert, Option.some_or]

/-- How a kind of member is read and written: every value that is accepted is the
one that its content is written as, and null is none of them. -/
structure Codec (toJson : α → Json) (read : Json.Reader α) : Prop where
  accepts_iff : ∀ {origin : Origin} {spell : String → List Char} {value : Json} {a : α},
    read origin (value.spelled spell) = .ok a ↔ value = toJson a
  injective : ∀ {a b : α}, toJson a = toJson b → a = b
  not_null : ∀ {a : α}, toJson a ≠ .null

theorem numberCodec : Codec Json.number Json.numberReader where
  accepts_iff := Json.numberReader_spelled
  injective := Json.number.inj
  not_null := nofun

theorem boolCodec : Codec Json.bool Json.boolReader where
  accepts_iff := Json.boolReader_spelled
  injective := Json.bool.inj
  not_null := nofun

theorem stringCodec : Codec Json.string Json.stringReader where
  accepts_iff := Json.stringReader_spelled
  injective := Json.string.inj
  not_null := nofun

section

variable {toJson : α → Json} {read : Json.Reader α}

theorem json?_inj (codec : Codec toJson read) {left right : Field α}
    (same : left.json? toJson = right.json? toJson) : left = right := by
  cases left <;> cases right <;> simp only [json?, Option.some.injEq, reduceCtorEq] at same ⊢
  · exact codec.not_null same.symm
  · exact codec.not_null same
  · rw [codec.injective same]

/-- A member is read once, and shows the value that it was read from. -/
theorem read_eq_ok_iff (codec : Codec toJson read) {origin : Origin}
    {spell : String → List Char} {name : String} {field result : Field α} {value : Json} :
    Field.read name field (Json.nullable read origin (value.spelled spell)) = .ok result ↔
      field = .absent ∧ result.json? toJson = some value := by
  cases field with
  | null | value a => simp only [Field.read, reduceCtorEq, false_and]
  | absent =>
      simp only [Field.read, Outcome.map_eq_ok, Json.nullable_spelled, codec.accepts_iff, true_and]
      constructor
      · rintro ⟨_, ⟨rfl, rfl⟩ | ⟨_, a, rfl, rfl⟩, rfl⟩ <;> rfl
      · intro shown
        cases result with
        | absent => cases shown
        | null =>
            cases shown
            exact ⟨none, .inl ⟨rfl, rfl⟩, rfl⟩
        | value a =>
            cases shown
            exact ⟨some a, .inr ⟨codec.not_null, a, rfl, rfl⟩, rfl⟩

/-- A member that has not been read accepts null and every value of its kind. -/
theorem exists_read (codec : Codec toJson read) {origin : Origin} {spell : String → List Char}
    {name : String} {field : Field α} {value : Json} (unread : field.json? toJson = none)
    (fits : value = .null ∨ ∃ a, value = toJson a) :
    ∃ result, Field.read name field (Json.nullable read origin (value.spelled spell)) =
      .ok result := by
  obtain ⟨result, shown⟩ := exists_json?_iff.2 fits
  exact ⟨result, (read_eq_ok_iff codec).2 ⟨json?_eq_none_iff.1 unread, shown⟩⟩

end

end Field

/-! ## Grade entries -/

namespace GradeEntry

/-- A recognised member of the entry. -/
def member? (entry : GradeEntry) (name : String) : Option Json :=
  if name = "manual_score" then entry.manualScore.json? .number
  else if name = "auto_score" then entry.autoScore.json? .number
  else if name = "extra_credit" then entry.extraCredit.json? .number
  else if name = "needs_manual_grade" then entry.needsManualGrade.json? .bool
  else none

theorem member?_of_not_mem {entry : GradeEntry} {name : String} (other : name ∉ gradeFields) :
    entry.member? name = none := by
  simp only [gradeFields, List.mem_cons, List.not_mem_nil, or_false, not_or] at other
  simp only [member?, other, if_false]

/-- Whether a recognised member may have a value. -/
def Fits (name : String) (value : Json) : Prop :=
  value = .null ∨
    if name = "needs_manual_grade" then ∃ b, value = .bool b else ∃ n, value = .number n

theorem fits_of_member? {entry : GradeEntry} {name : String} {value : Json}
    (shown : entry.member? name = some value) : Fits name value := by
  unfold member? at shown
  split_ifs at shown with manual auto credit flag
  · exact (Field.exists_json?_iff.1 ⟨_, shown⟩).imp_right (by simp [manual])
  · exact (Field.exists_json?_iff.1 ⟨_, shown⟩).imp_right (by simp [auto])
  · exact (Field.exists_json?_iff.1 ⟨_, shown⟩).imp_right (by simp [credit])
  · exact (Field.exists_json?_iff.1 ⟨_, shown⟩).imp_right (by simp [flag])

theorem member?_empty (name : String) : empty.member? name = none := by
  simp only [member?, empty, Field.json?, ite_self]

theorem eq_of_member? {left right : GradeEntry} (extra : left.extra = right.extra)
    (same : ∀ name ∈ gradeFields, left.member? name = right.member? name) : left = right := by
  have manual := same "manual_score" (by decide)
  have auto := same "auto_score" (by decide)
  have credit := same "extra_credit" (by decide)
  have flag := same "needs_manual_grade" (by decide)
  simp only [member?, String.reduceEq, if_true, if_false] at manual auto credit flag
  cases left
  cases right
  cases extra
  cases Field.json?_inj Field.numberCodec manual
  cases Field.json?_inj Field.numberCodec auto
  cases Field.json?_inj Field.numberCodec credit
  cases Field.json?_inj Field.boolCodec flag
  rfl

/-- An entry is written as the members that it shows and those that it carries
along. -/
theorem get?_toDict (entry : GradeEntry) (name : String) :
    entry.toDict.get? name =
      if name ∈ gradeFields then entry.member? name else entry.extra.members.get? name := by
  by_cases field : name ∈ gradeFields
  · rw [if_pos field]
    have carried := Extra.get?_of_reserved entry.extra field
    simp only [gradeFields, List.mem_cons, List.not_mem_nil, or_false] at field
    rcases field with rfl | rfl | rfl | rfl <;>
      simp only [toDict, Field.get?_write, member?, String.reduceEq, if_true, if_false, carried,
        Option.or_none]
  · rw [if_neg field]
    simp only [gradeFields, List.mem_cons, List.not_mem_nil, or_false, not_or] at field
    simp only [toDict, Field.get?_write, field, if_false]

theorem fieldReader (origin : Origin) (spell : String → List Char) :
    FieldReader spell gradeFields (fun name value content => Fits name value ∧ content = value)
      member? (origin.Allows ·.depth) (readMember origin) where
  reads := by
    intro entry next name value field stepped
    have stored : entry.member? name = none ∧ next.member? name = some value := by
      simp only [gradeFields, List.mem_cons, List.not_mem_nil, or_false] at field
      rcases field with rfl | rfl | rfl | rfl <;>
        simp only [readMember, String.reduceEq, if_true, if_false, Outcome.bind_eq_ok,
          Outcome.pure_eq_ok, Field.read_eq_ok_iff Field.numberCodec,
          Field.read_eq_ok_iff Field.boolCodec] at stepped <;>
        obtain ⟨result, ⟨fresh, shown⟩, rfl⟩ := stepped <;>
        simp only [member?, String.reduceEq, if_true, if_false, Field.json?_eq_none_iff, fresh,
          shown, and_self]
    exact ⟨stored.1, value, ⟨fits_of_member? stored.2, rfl⟩, stored.2⟩
  frame := by
    intro entry next name other value differs stepped
    by_cases listed : other ∈ gradeFields
    · have distinct : other ≠ name := differs.resolve_right (not_not_intro listed)
      unfold readMember at stepped
      split_ifs at stepped with manual auto credit flag <;>
        simp only [Outcome.bind_eq_ok, Outcome.pure_eq_ok] at stepped
      · obtain ⟨_, _, rfl⟩ := stepped
        simp only [member?, ← manual, if_neg distinct]
      · obtain ⟨_, _, rfl⟩ := stepped
        simp only [member?, ← auto, if_neg distinct]
      · obtain ⟨_, _, rfl⟩ := stepped
        simp only [member?, ← credit, if_neg distinct]
      · obtain ⟨_, _, rfl⟩ := stepped
        simp only [member?, ← flag, if_neg distinct]
      · obtain ⟨_, _, rfl⟩ := stepped
        rfl
    · rw [member?_of_not_mem listed, member?_of_not_mem listed]
  accepts := by
    intro entry name value fresh pass
    by_cases listed : name ∈ gradeFields
    · obtain ⟨unread, content, fits, _⟩ := fresh listed
      simp only [gradeFields, List.mem_cons, List.not_mem_nil, or_false] at listed
      rcases listed with rfl | rfl | rfl | rfl <;>
        simp only [member?, Fits, String.reduceEq, if_true, if_false] at unread fits
      · obtain ⟨manualScore, stored⟩ := Field.exists_read Field.numberCodec unread fits
        exact ⟨{ entry with manualScore }, Outcome.bind_eq_ok.2 ⟨manualScore, stored, rfl⟩⟩
      · obtain ⟨autoScore, stored⟩ := Field.exists_read Field.numberCodec unread fits
        exact ⟨{ entry with autoScore }, Outcome.bind_eq_ok.2 ⟨autoScore, stored, rfl⟩⟩
      · obtain ⟨extraCredit, stored⟩ := Field.exists_read Field.numberCodec unread fits
        exact ⟨{ entry with extraCredit }, Outcome.bind_eq_ok.2 ⟨extraCredit, stored, rfl⟩⟩
      · obtain ⟨needsManualGrade, stored⟩ := Field.exists_read Field.boolCodec unread fits
        exact ⟨{ entry with needsManualGrade },
          Outcome.bind_eq_ok.2 ⟨needsManualGrade, stored, rfl⟩⟩
    · have checked : Json.check origin (value.spelled spell) = .ok () :=
        Json.check_spelled value origin (pass listed)
      simp only [gradeFields, List.mem_cons, List.not_mem_nil, or_false, not_or] at listed
      refine ⟨entry, ?_⟩
      simp only [readMember, listed, if_false, checked, Outcome.ok_bind]
      rfl

/-- Grade entries as records. -/
def record : Json.Record GradeEntry gradeFields where
  empty := empty
  readMember := readMember
  member? := member?
  extra := extra
  withExtra entry extra := { entry with extra }
  toDict := toDict
  Fits := Fits
  fieldReader := fieldReader
  member?_empty := member?_empty
  member?_withExtra _ _ _ := rfl
  extra_withExtra _ _ := rfl
  fits_of_member? := fits_of_member?
  eq_of_member? := eq_of_member?
  get?_toDict := get?_toDict

theorem shape : Json.Shape toJson reader (Extra.PlainBeside gradeFields)
    (fun entry => entry.extra.Every Json.Canonical) (fun entry => entry.extra.Every Json.Plain) :=
  record.shape "GradeEntry"

end GradeEntry

/-! ## Comment entries -/

namespace CommentEntry

/-- A recognised member of the entry. -/
def member? (entry : CommentEntry) (name : String) : Option Json :=
  if name = "manual_comment" then entry.manualComment.json? .string else none

/-- Whether a recognised member may have a value. -/
def Fits (_ : String) (value : Json) : Prop :=
  value = .null ∨ ∃ s, value = .string s

theorem mem_commentFields {name : String} : name ∈ commentFields ↔ name = "manual_comment" := by
  simp only [commentFields, List.mem_singleton]

theorem member?_of_not_mem {entry : CommentEntry} {name : String}
    (other : name ∉ commentFields) : entry.member? name = none :=
  if_neg fun same => other (mem_commentFields.2 same)

theorem member?_empty (name : String) : empty.member? name = none := by
  simp only [member?, empty, Field.json?, ite_self]

theorem fits_of_member? {entry : CommentEntry} {name : String} {value : Json}
    (shown : entry.member? name = some value) : Fits name value := by
  unfold member? at shown
  split_ifs at shown
  exact Field.exists_json?_iff.1 ⟨_, shown⟩

theorem eq_of_member? {left right : CommentEntry} (extra : left.extra = right.extra)
    (same : ∀ name ∈ commentFields, left.member? name = right.member? name) : left = right := by
  have comment := same "manual_comment" (mem_commentFields.2 rfl)
  simp only [member?, if_true] at comment
  cases left
  cases right
  cases extra
  cases Field.json?_inj Field.stringCodec comment
  rfl

/-- An entry is written as the members that it shows and those that it carries
along. -/
theorem get?_toDict (entry : CommentEntry) (name : String) :
    entry.toDict.get? name =
      if name ∈ commentFields then entry.member? name else entry.extra.members.get? name := by
  rw [toDict, Field.get?_write]
  by_cases field : name ∈ commentFields
  · rw [if_pos field, if_pos (mem_commentFields.1 field), member?,
      if_pos (mem_commentFields.1 field), Extra.get?_of_reserved entry.extra field, Option.or_none]
  · rw [if_neg field, if_neg fun same => field (mem_commentFields.2 same)]

theorem fieldReader (origin : Origin) (spell : String → List Char) :
    FieldReader spell commentFields (fun name value content => Fits name value ∧ content = value)
      member? (origin.Allows ·.depth) (readMember origin) where
  reads := by
    intro entry next name value field stepped
    cases mem_commentFields.1 field
    obtain ⟨result, stored, ⟨rfl⟩⟩ := Outcome.bind_eq_ok.1 stepped
    obtain ⟨fresh, shown⟩ := (Field.read_eq_ok_iff Field.stringCodec).1 stored
    refine ⟨?_, value, ⟨Field.exists_json?_iff.1 ⟨result, shown⟩, rfl⟩, ?_⟩
    · simp only [member?, if_true, fresh, Field.json?]
    · simp only [member?, if_true, shown]
  frame := by
    intro entry next name other value differs stepped
    by_cases listed : other ∈ commentFields
    · have distinct : other ≠ name := differs.resolve_right (not_not_intro listed)
      unfold readMember at stepped
      split_ifs at stepped with comment <;>
        obtain ⟨_, _, ⟨rfl⟩⟩ := Outcome.bind_eq_ok.1 stepped
      · simp only [member?, ← comment, if_neg distinct]
      · rfl
    · rw [member?_of_not_mem listed, member?_of_not_mem listed]
  accepts := by
    intro entry name value fresh pass
    by_cases listed : name ∈ commentFields
    · obtain ⟨unread, content, fits, _⟩ := fresh listed
      cases mem_commentFields.1 listed
      simp only [member?, if_true] at unread
      obtain ⟨manualComment, stored⟩ := Field.exists_read Field.stringCodec unread fits
      exact ⟨{ entry with manualComment }, Outcome.bind_eq_ok.2 ⟨manualComment, stored, rfl⟩⟩
    · have checked : Json.check origin (value.spelled spell) = .ok () :=
        Json.check_spelled value origin (pass listed)
      refine ⟨entry, ?_⟩
      rw [readMember, if_neg fun same => listed (mem_commentFields.2 same), checked]
      rfl

/-- Comment entries as records. -/
def record : Json.Record CommentEntry commentFields where
  empty := empty
  readMember := readMember
  member? := member?
  extra := extra
  withExtra entry extra := { entry with extra }
  toDict := toDict
  Fits := Fits
  fieldReader := fieldReader
  member?_empty := member?_empty
  member?_withExtra _ _ _ := rfl
  extra_withExtra _ _ := rfl
  fits_of_member? := fits_of_member?
  eq_of_member? := eq_of_member?
  get?_toDict := get?_toDict

theorem shape : Json.Shape toJson reader (Extra.PlainBeside commentFields)
    (fun entry => entry.extra.Every Json.Canonical) (fun entry => entry.extra.Every Json.Plain) :=
  record.shape "CommentEntry"

end CommentEntry

end Gradebook
