import Gradebook.Ledger.Entry
import Gradebook.Proofs.Json.Reading

namespace Gradebook

/-!
# Records and what they carry along

A record of the payload has a few fields, and keeps every other member under its
own name.  Here are the laws of the second half and, for records whose fields
show the JSON values that they were read from, the laws of the whole.

`Json.Record` collects what such a record has to provide, one step at a time.
From it follow both directions of the payload: reading accepts an object just
when the record shows its members, and a record and its object give each other
back just when the values that are carried along are plain.
-/

namespace Extra

open Json

variable {reserved : List String} {spell : String → List Char}

theorem ext_members {left right : Extra reserved} (same : left.members = right.members) :
    left = right := by
  cases left
  cases right
  cases same
  rfl

theorem get?_of_reserved (extra : Extra reserved) {name : String} (taken : name ∈ reserved) :
    extra.members.get? name = none :=
  Dict.get?_eq_none_iff.2 fun listed => extra.unreserved name listed taken

theorem keepMore_of_free {extra : Extra reserved} {key : Key} {document : Document}
    {rest : List (Key × Document)} {name : String} (named : key.text = .ok name)
    (free : name ∉ reserved) :
    extra.keepMore ((key, document) :: rest) =
      (keep .aside document >>= fun kept => (extra.insert name kept free).keepMore rest) := by
  simp only [keepMore, named, Outcome.ok_bind]
  rw [dif_pos free]

theorem keepMore_of_reserved {extra : Extra reserved} {key : Key} {document : Document}
    {rest : List (Key × Document)} {name : String} (named : key.text = .ok name)
    (taken : name ∈ reserved) :
    extra.keepMore ((key, document) :: rest) = extra.keepMore rest := by
  simp only [keepMore, named, Outcome.ok_bind]
  rw [dif_neg (not_not_intro taken)]

theorem keepMore_cons_of_free {extra : Extra reserved} {key : String} {value : Json}
    {rest : List (String × Json)} (free : key ∉ reserved) :
    extra.keepMore (spelledMembers spell ((key, value) :: rest)) =
      (keep .aside (value.spelled spell) >>= fun kept =>
        (extra.insert key kept free).keepMore (spelledMembers spell rest)) := by
  rw [spelledMembers]
  exact keepMore_of_free rfl free

theorem keepMore_cons_of_reserved {extra : Extra reserved} {key : String} {value : Json}
    {rest : List (String × Json)} (taken : key ∈ reserved) :
    extra.keepMore (spelledMembers spell ((key, value) :: rest)) =
      extra.keepMore (spelledMembers spell rest) := by
  rw [spelledMembers]
  exact keepMore_of_reserved rfl taken

theorem keepMore_spelled {extra result : Extra reserved} {members : List (String × Json)} :
    extra.keepMore (spelledMembers spell members) = .ok result ↔
      ∃ entries : List (String × Json),
        List.Forall₂ (EntryOf fun value kept => keep .aside (value.spelled spell) = .ok kept)
          (members.filter (·.1 ∉ reserved)) entries ∧
        result.members =
          entries.foldl (fun dict (key, value) => dict.insert key value) extra.members := by
  induction members generalizing extra with
  | nil =>
      simp only [spelledMembers, keepMore, Except.ok.injEq, List.filter_nil,
        List.forall₂_nil_left_iff, exists_eq_left, List.foldl_nil]
      exact ⟨fun same => same ▸ rfl, fun same => ext_members same.symm⟩
  | cons member rest inductionHypothesis =>
      obtain ⟨key, value⟩ := member
      by_cases taken : key ∈ reserved
      · rw [keepMore_cons_of_reserved taken, List.filter_cons_of_neg (by simpa using taken)]
        exact inductionHypothesis
      · rw [keepMore_cons_of_free taken, List.filter_cons_of_pos (by simpa using taken)]
        simp only [Outcome.bind_eq_ok, List.forall₂_cons_left_iff]
        constructor
        · rintro ⟨kept, keptValue, more⟩
          obtain ⟨entries, related, folded⟩ := inductionHypothesis.1 more
          exact ⟨(key, kept) :: entries, ⟨(key, kept), entries, ⟨rfl, keptValue⟩, related, rfl⟩,
            folded⟩
        · rintro ⟨_, ⟨⟨_, kept⟩, entries, ⟨rfl, keptValue⟩, related, rfl⟩, folded⟩
          exact ⟨kept, keptValue, inductionHypothesis.2 ⟨entries, related, folded⟩⟩

/-- The members without a reserved name are kept, each under its own name. -/
theorem ofMembers_spelled {extra : Extra reserved} {members : List (String × Json)}
    (ascending : (members.map Prod.fst).Pairwise (· < ·)) :
    ofMembers (spelledMembers spell members) = .ok extra ↔
      List.Forall₂ (EntryOf fun value kept => keep .aside (value.spelled spell) = .ok kept)
        (members.filter (·.1 ∉ reserved)) extra.members.entries := by
  rw [ofMembers, keepMore_spelled]
  have sorted : ((members.filter (·.1 ∉ reserved)).map Prod.fst).Pairwise (· < ·) :=
    ascending.sublist (List.filter_sublist.map Prod.fst)
  constructor
  · rintro ⟨entries, related, folded⟩
    have keys := keys_eq_of_forall₂ related
    change extra.members = Dict.ofList entries at folded
    rw [folded, Dict.entries_ofList (keys ▸ sorted)]
    exact related
  · intro related
    exact ⟨extra.members.entries, related, (Dict.ofList_entries extra.members).symm⟩

theorem rel_get? {extra : Extra reserved} {members : List (String × Json)}
    (ascending : (members.map Prod.fst).Pairwise (· < ·))
    (kept : ofMembers (spelledMembers spell members) = .ok extra) {name : String}
    (free : name ∉ reserved) :
    Option.Rel (fun value result => keep .aside (value.spelled spell) = .ok result)
      (members.lookup name) (extra.members.get? name) := by
  have related := (ofMembers_spelled ascending).1 kept
  rw [← Dict.lookup_filter_of_pos (· ∉ reserved) free]
  exact rel_lookup_of_forall₂ related name

/-- Every value that is carried along has a property. -/
def Every (property : Json → Prop) (extra : Extra reserved) : Prop :=
  ∀ name value, extra.members.get? name = some value → property value

theorem every_empty (property : Json → Prop) : (empty : Extra reserved).Every property := by
  intro name value impossible
  cases impossible

theorem every_insert {property : Json → Prop} {extra : Extra reserved} {name : String}
    {value : Json} {free : name ∉ reserved} (every : extra.Every property)
    (holds : property value) : (extra.insert name value free).Every property := by
  intro other content found
  change (extra.members.insert name value).get? other = some content at found
  rw [Dict.get?_insert] at found
  split at found
  · cases found
    exact holds
  · exact every other content found

/-- The values that are kept of a record are canonical. -/
theorem canonical_keepMore {extra result : Extra reserved} {members : List (Key × Document)}
    (every : extra.Every Canonical) (kept : extra.keepMore members = .ok result) :
    result.Every Canonical := by
  induction members generalizing extra with
  | nil => exact Except.ok.inj kept ▸ every
  | cons member rest inductionHypothesis =>
      obtain ⟨key, document⟩ := member
      simp only [keepMore, Outcome.bind_eq_ok] at kept
      obtain ⟨name, _, kept⟩ := kept
      split at kept
      · obtain ⟨value, keptValue, more⟩ := Outcome.bind_eq_ok.1 kept
        exact inductionHypothesis (every_insert every (canonical_keep keptValue)) more
      · exact inductionHypothesis every kept

/-- Every value beside the reserved members is plain. -/
def PlainBeside (reserved : List String) (value : Json) : Prop :=
  ∀ name content, value.member? name = some content → name ∉ reserved → content.Plain

/-- A record that was read is written back as it was just when its fields are
and the values beside them are plain. -/
theorem entries_eq_iff {dict : Dict Json} {extra : Extra reserved}
    {members : List (String × Json)} (canonical : (Json.object members).Canonical)
    (kept : ofMembers (spelledMembers spell members) = .ok extra)
    (others : ∀ name, name ∉ reserved → dict.get? name = extra.members.get? name) :
    dict.entries = members ↔ (∀ name ∈ reserved, dict.get? name = members.lookup name) ∧
      PlainBeside reserved (.object members) := by
  simp only [Canonical] at canonical
  obtain ⟨ascending, inner⟩ := canonical
  have innerCanonical := canonicalMembers_iff.1 inner
  have distinct := Dict.nodup_of_ascending ascending
  constructor
  · rintro rfl
    refine ⟨fun _ _ => rfl, fun name value found free => ?_⟩
    change dict.get? name = some value at found
    have related := rel_get? ascending kept free
    rw [← others name free, found] at related
    obtain ⟨source, looked, unchanged⟩ := exists_of_rel_some_right related
    have listed := Dict.get?_eq_some_iff.1 found
    cases Option.some.inj (looked.symm.trans found)
    exact (keep_aside_eq_ok_self_iff spell (innerCanonical _ listed)).1 unchanged
  · rintro ⟨fields, plain⟩
    refine Dict.eq_of_ascending dict.ascending ascending fun name => ?_
    by_cases taken : name ∈ reserved
    · exact fields name taken
    · refine (others name taken).trans ?_
      have related := rel_get? ascending kept taken
      cases found : members.lookup name with
      | none =>
          rw [found] at related
          exact eq_none_of_rel_none related
      | some value =>
          rw [found] at related
          obtain ⟨content, shown, read⟩ := exists_of_rel_some_left related
          have listed := (Dict.lookup_eq_some_iff distinct).1 found
          have unchanged := (keep_aside_eq_ok_self_iff spell (innerCanonical _ listed)).2
            (plain name value found taken)
          exact shown.trans (congrArg some (Except.ok.inj (read.symm.trans unchanged)))

/-- What is carried along is found again in a record that holds it, just when it
is plain. -/
theorem ofMembers_entries_iff (spell : String → List Char) {dict : Dict Json} {extra : Extra reserved}
    (canonical : extra.Every Canonical)
    (others : ∀ name, name ∉ reserved → dict.get? name = extra.members.get? name) :
    ofMembers (spelledMembers spell dict.entries) = .ok extra ↔ extra.Every Plain := by
  have unreserved : dict.entries.filter (·.1 ∉ reserved) = extra.members.entries := by
    refine Dict.eq_of_ascending (dict.ascending.sublist (List.filter_sublist.map Prod.fst))
      extra.members.ascending fun name => ?_
    by_cases taken : name ∈ reserved
    · refine Eq.trans ?_ (get?_of_reserved extra taken).symm
      rw [Dict.lookup_eq_none_iff]
      intro listed
      obtain ⟨entry, member, rfl⟩ := List.mem_map.1 listed
      exact of_decide_eq_true (List.mem_filter.1 member).2 taken
    · rw [Dict.lookup_filter_of_pos (· ∉ reserved) taken]
      exact others name taken
  rw [ofMembers_spelled dict.ascending, unreserved, List.forall₂_same]
  constructor
  · intro unchanged name value found
    have kept := (unchanged _ (Dict.get?_eq_some_iff.1 found)).2
    exact (keep_aside_eq_ok_self_iff spell (canonical name value found)).1 kept
  · intro plain entry listed
    have found := Dict.get?_eq_some_iff.2 listed
    exact ⟨rfl, (keep_aside_eq_ok_self_iff spell (canonical _ _ found)).2 (plain _ _ found)⟩

end Extra

/-! ## Records of plain fields -/

namespace Json

/-- A record whose fields show the JSON values that they were read from.  `Fits`
says which values a field accepts. -/
structure Record (α : Type) (fields : List String) where
  empty : α
  readMember : Origin → α → String → Document → Except ReadError α
  member? : α → String → Option Json
  extra : α → Extra fields
  withExtra : α → Extra fields → α
  toDict : α → Dict Json
  Fits : String → Json → Prop
  fieldReader : ∀ origin spell,
    FieldReader spell fields (fun name value content => Fits name value ∧ content = value) member?
      (origin.Allows ·.depth) (readMember origin)
  member?_empty : ∀ name, member? empty name = none
  member?_withExtra : ∀ a extra name, member? (withExtra a extra) name = member? a name
  extra_withExtra : ∀ a kept, extra (withExtra a kept) = kept
  fits_of_member? : ∀ {a name value}, member? a name = some value → Fits name value
  eq_of_member? : ∀ {left right}, extra left = extra right →
    (∀ name ∈ fields, member? left name = member? right name) → left = right
  get?_toDict : ∀ a name, (toDict a).get? name =
    if name ∈ fields then member? a name else (extra a).members.get? name

namespace Record

variable {α : Type} {fields : List String} (record : Record α fields) {type : String}
  {spell : String → List Char} {origin inner : Origin}

/-- Read the fields, and after them what stands beside them. -/
def reader (type : String) : Reader α :=
  objectReader type fun origin members ending => do
    let a ← foldMembers (record.readMember origin) ending record.empty members
    let extra ← Extra.ofMembers members
    return record.withExtra a extra

theorem member?_of_foldMembers {members : List (String × Json)} {final : α}
    (distinct : (members.map Prod.fst).Nodup)
    (folded : foldMembers (record.readMember inner) .closed record.empty
      (spelledMembers spell members) = .ok final) {name : String} (field : name ∈ fields) :
    record.member? final name = members.lookup name :=
  (record.fieldReader inner spell).view_eq_lookup And.right distinct field
    (record.member?_empty name) folded

/-- An object is read just when the record shows its fields and carries along what
stands beside them. -/
theorem reader_object_iff (entered : origin.enter = .ok inner) {members : List (String × Json)}
    (allows : inner.Allows (depthMembers members))
    (ascending : (members.map Prod.fst).Pairwise (· < ·)) {a : α} :
    record.reader type origin ((object members).spelled spell) = .ok a ↔
      (∀ name ∈ fields, record.member? a name = members.lookup name) ∧
        Extra.ofMembers (spelledMembers spell members) = .ok (record.extra a) := by
  have distinct := Dict.nodup_of_ascending ascending
  rw [reader, objectReader_spelled]
  constructor
  · rintro ⟨_, ⟨rfl⟩, other, enteredOther, read⟩
    cases Except.ok.inj (entered.symm.trans enteredOther)
    simp only [Outcome.bind_eq_ok, Outcome.pure_eq_ok] at read
    obtain ⟨final, folded, extra, kept, rfl⟩ := read
    constructor
    · intro name field
      rw [record.member?_withExtra, record.member?_of_foldMembers distinct folded field]
    · rw [record.extra_withExtra, kept]
  · rintro ⟨shown, kept⟩
    have fit : ∀ member ∈ members, member.1 ∈ fields →
        ∃ content, record.Fits member.1 member.2 ∧ content = member.2 := by
      intro member listed field
      have found := (Dict.lookup_eq_some_iff distinct).2 listed
      exact ⟨member.2, record.fits_of_member? ((shown member.1 field).trans found), rfl⟩
    have pass : ∀ member ∈ members, member.1 ∉ fields → inner.Allows member.2.depth :=
      fun member listed _ => allows.mono (depth_le_depthMembers listed)
    obtain ⟨final, folded⟩ := (record.fieldReader inner spell).exists_foldMembers distinct
      (fun name _ _ => record.member?_empty name) fit pass
    have same : record.withExtra final (record.extra a) = a := by
      apply record.eq_of_member? (record.extra_withExtra final _)
      intro name field
      rw [record.member?_withExtra, record.member?_of_foldMembers distinct folded field,
        shown name field]
    refine ⟨members, rfl, inner, entered, ?_⟩
    simp only [folded, kept, Outcome.ok_bind, same]
    rfl

/-- Records have a shape: what they carry along has to be plain. -/
theorem shape (record : Record α fields) (type : String) :
    Shape (fun a => ofDict (record.toDict a)) (record.reader type) (Extra.PlainBeside fields)
      (fun a => (record.extra a).Every Canonical) (fun a => (record.extra a).Every Plain) where
  toJson_eq_iff := by
    intro origin spell value a allows canonical accepted
    obtain ⟨members, rfl, _⟩ := objectReader_spelled.1 accepted
    simp only [depth] at allows
    obtain ⟨inner, entered, allowsInner⟩ := allows.enter
    obtain ⟨shown, kept⟩ := (record.reader_object_iff entered allowsInner canonical.1).1 accepted
    have others : ∀ name, name ∉ fields →
        (record.toDict a).get? name = (record.extra a).members.get? name :=
      fun name other => by rw [record.get?_toDict, if_neg other]
    rw [ofDict, object.injEq, Extra.entries_eq_iff canonical kept others]
    refine and_iff_right fun name listed => ?_
    rw [record.get?_toDict, if_pos listed, shown name listed]
  read_toJson_iff := by
    intro spell origin a allows canonical
    simp only [ofDict, depth] at allows
    obtain ⟨inner, entered, allowsInner⟩ := allows.enter
    have others : ∀ name, name ∉ fields →
        (record.toDict a).get? name = (record.extra a).members.get? name :=
      fun name other => by rw [record.get?_toDict, if_neg other]
    rw [ofDict, record.reader_object_iff entered allowsInner (record.toDict a).ascending,
      Extra.ofMembers_entries_iff spell canonical others]
    refine and_iff_right fun name listed => ?_
    change record.member? a name = (record.toDict a).get? name
    rw [record.get?_toDict, if_pos listed]

/-- What a record that was read carries along is canonical. -/
theorem yields_canonical (record : Record α fields) (type : String) :
    Yields (record.reader type) fun a => (record.extra a).Every Canonical := by
  intro origin document a accepted
  obtain ⟨inner, members, ending, accepted⟩ := exists_of_objectReader accepted
  obtain ⟨final, _, accepted⟩ := Outcome.bind_eq_ok.1 accepted
  obtain ⟨extra, kept, ⟨rfl⟩⟩ := Outcome.bind_eq_ok.1 accepted
  rw [record.extra_withExtra]
  exact Extra.canonical_keepMore (Extra.every_empty Canonical) kept

end Record

end Json

end Gradebook
