import Gradebook.Proofs.Json.Keep
import Mathlib.Data.List.Forall2

namespace Gradebook

namespace Json

/-!
# Reading values shape by shape

Each reader has one law here, for documents of values: which values it accepts
and what it makes of them.  The document may spell its keys in any way and come
from any origin that allows its depth, so the laws serve values that were read
before as well as texts that were written from a value.

A record is read member by member into a state.  `FieldReader` says what one
step does to the fields that the state shows; the laws about all members follow
by induction on them.  The members of a value do not repeat a key, so every
field is met at most once.
-/

variable {α σ ρ : Type} {spell : String → List Char} {origin : Origin}

/-! ## Scalars -/

theorem refuse_ne_ok {expected : String} {document : Document} {result : α} :
    refuse expected document ≠ .ok result := by
  intro refused
  simp only [refuse, Outcome.bind_eq_ok] at refused
  obtain ⟨_, _, impossible⟩ := refused
  exact Outcome.throw_ne_ok impossible

theorem numberReader_spelled {value : Json} {n : Number} :
    numberReader origin (value.spelled spell) = .ok n ↔ value = .number n := by
  cases value <;>
    simp only [spelled, numberReader, refuse_ne_ok, Except.ok.injEq, number.injEq, reduceCtorEq]

theorem boolReader_spelled {value : Json} {b : Bool} :
    boolReader origin (value.spelled spell) = .ok b ↔ value = .bool b := by
  cases value <;>
    simp only [spelled, boolReader, refuse_ne_ok, Except.ok.injEq, bool.injEq, reduceCtorEq]

theorem stringReader_spelled {value : Json} {s : String} :
    stringReader origin (value.spelled spell) = .ok s ↔ value = .string s := by
  cases value <;>
    simp only [spelled, stringReader, textReader, refuse_ne_ok, Except.ok.injEq, string.injEq,
      reduceCtorEq]

theorem nullable_spelled {read : Reader α} {value : Json} {result : Option α} :
    nullable read origin (value.spelled spell) = .ok result ↔
      (value = .null ∧ result = none) ∨
        (value ≠ .null ∧ ∃ a, read origin (value.spelled spell) = .ok a ∧ result = some a) := by
  cases value with
  | null =>
      simp only [spelled, nullable, Except.ok.injEq, true_and, ne_eq, not_true_eq_false,
        false_and, or_false]
      exact eq_comm
  | bool b | number n | string s | array items | object members =>
      simp only [spelled, nullable, Outcome.bind_eq_ok, Outcome.pure_eq_ok, reduceCtorEq,
        false_and, ne_eq, not_false_eq_true, true_and, false_or]
      exact exists_congr fun a => and_congr_right fun _ => eq_comm

/-! ## Anything -/

mutual

/-- Every value can be set aside. -/
theorem check_spelled : ∀ (value : Json) (origin : Origin), origin.Allows value.depth →
    check origin (value.spelled spell) = .ok ()
  | .null, _, _ | .bool _, _, _ | .number _, _, _ | .string _, _, _ => by
      simp only [spelled, check, found, Outcome.ok_bind]
      rfl
  | .array items, origin, allows => by
      simp only [depth] at allows
      obtain ⟨inner, entered, allowsInner⟩ := allows.enter
      simp only [spelled, check, entered, checkItems_spelled items inner allowsInner,
        Outcome.ok_bind]
      rfl
  | .object members, origin, allows => by
      simp only [depth] at allows
      obtain ⟨inner, entered, allowsInner⟩ := allows.enter
      simp only [spelled, check, entered, checkMembers_spelled members inner allowsInner,
        Outcome.ok_bind]
      rfl

theorem checkItems_spelled : ∀ (items : List Json) (origin : Origin),
    origin.Allows (depthItems items) → checkItems origin (spelledItems spell items) = .ok ()
  | [], _, _ => by simp only [spelledItems, checkItems]
  | item :: rest, origin, allows => by
      simp only [depthItems] at allows
      simp only [spelledItems, checkItems,
        check_spelled item origin (allows.mono (Nat.le_max_left _ _)),
        checkItems_spelled rest origin (allows.mono (Nat.le_max_right _ _)), Outcome.ok_bind]

theorem checkMembers_spelled : ∀ (members : List (String × Json)) (origin : Origin),
    origin.Allows (depthMembers members) →
      checkMembers origin (spelledMembers spell members) = .ok ()
  | [], _, _ => by simp only [spelledMembers, checkMembers]
  | (key, value) :: rest, origin, allows => by
      simp only [depthMembers] at allows
      simp only [spelledMembers, checkMembers, Key.text,
        check_spelled value origin (allows.mono (Nat.le_max_left _ _)),
        checkMembers_spelled rest origin (allows.mono (Nat.le_max_right _ _)), Outcome.ok_bind]

end

/-! ## Dictionaries -/

theorem exists_of_rel_some_right {β γ : Type} {relation : β → γ → Prop} {left : Option β} {c : γ}
    (related : Option.Rel relation left (some c)) : ∃ b, left = some b ∧ relation b c := by
  cases related with
  | some held => exact ⟨_, rfl, held⟩

theorem exists_of_rel_some_left {β γ : Type} {relation : β → γ → Prop} {b : β} {right : Option γ}
    (related : Option.Rel relation (some b) right) : ∃ c, right = some c ∧ relation b c := by
  cases related with
  | some held => exact ⟨_, rfl, held⟩

theorem eq_none_of_rel_none {β γ : Type} {relation : β → γ → Prop} {right : Option γ}
    (related : Option.Rel relation none right) : right = none := by
  cases related with
  | none => rfl

/-- Whether an entry stands under the key of a member and is related to its value. -/
def EntryOf {β γ : Type} (relation : β → γ → Prop) (member : String × β) (entry : String × γ) :
    Prop :=
  entry.1 = member.1 ∧ relation member.2 entry.2

theorem foldMembers_insert {read : Reader α} {dict result : Dict α}
    {members : List (String × Json)} :
    foldMembers (fun dict name value => do return dict.insert name (← read origin value))
        .closed dict (spelledMembers spell members) = .ok result ↔
      ∃ entries : List (String × α),
        List.Forall₂ (EntryOf fun value a => read origin (value.spelled spell) = .ok a)
          members entries ∧
        result = entries.foldl (fun dict (key, value) => dict.insert key value) dict := by
  induction members generalizing dict with
  | nil =>
      simp only [spelledMembers, foldMembers, Ending.finish, Ending.fault?, Outcome.ok_bind,
        Outcome.pure_eq_ok, List.forall₂_nil_left_iff, exists_eq_left, List.foldl_nil]
      exact eq_comm
  | cons member rest inductionHypothesis =>
      obtain ⟨key, value⟩ := member
      simp only [spelledMembers, foldMembers, Key.text, Outcome.ok_bind, Outcome.bind_eq_ok,
        Outcome.pure_eq_ok, List.forall₂_cons_left_iff]
      constructor
      · rintro ⟨_, ⟨a, readValue, rfl⟩, folded⟩
        obtain ⟨entries, related, rfl⟩ := inductionHypothesis.1 folded
        exact ⟨(key, a) :: entries, ⟨(key, a), entries, ⟨rfl, readValue⟩, related, rfl⟩, rfl⟩
      · rintro ⟨_, ⟨⟨_, a⟩, entries, ⟨rfl, readValue⟩, related, rfl⟩, rfl⟩
        exact ⟨_, ⟨a, readValue, rfl⟩, inductionHypothesis.2 ⟨entries, related, rfl⟩⟩

theorem keys_eq_of_forall₂ {β γ : Type} {relation : β → γ → Prop}
    {members : List (String × β)} {entries : List (String × γ)}
    (related : List.Forall₂ (EntryOf relation) members entries) :
    entries.map Prod.fst = members.map Prod.fst := by
  induction related with
  | nil => rfl
  | cons first rest inductionHypothesis =>
      simp only [List.map_cons, first.1, inductionHypothesis]

theorem rel_lookup_of_forall₂ {β γ : Type} {relation : β → γ → Prop}
    {members : List (String × β)} {entries : List (String × γ)}
    (related : List.Forall₂ (EntryOf relation) members entries) (key : String) :
    Option.Rel relation (members.lookup key) (entries.lookup key) := by
  induction related with
  | nil => exact .none
  | @cons member entry _ _ first rest inductionHypothesis =>
      obtain ⟨name, value⟩ := member
      obtain ⟨entryName, content⟩ := entry
      obtain ⟨named, held⟩ := first
      change entryName = name at named
      subst named
      by_cases same : key = entryName
      · subst same
        simp only [List.lookup_cons_self]
        exact .some held
      · simp only [List.lookup_cons, beq_false_of_ne same]
        exact inductionHypothesis

/-- An object with ascending keys is read into the dictionary of what its values
are read as. -/
theorem dictReader_object {read : Reader α} {inner : Origin} (entered : origin.enter = .ok inner)
    {members : List (String × Json)} (ascending : (members.map Prod.fst).Pairwise (· < ·))
    {dict : Dict α} :
    dictReader read origin ((Json.object members).spelled spell) = .ok dict ↔
      List.Forall₂ (EntryOf fun value a => read inner (value.spelled spell) = .ok a)
        members dict.entries := by
  simp only [spelled, dictReader, entered, Outcome.ok_bind, foldMembers_insert]
  constructor
  · rintro ⟨entries, related, rfl⟩
    have keys := keys_eq_of_forall₂ related
    change List.Forall₂ _ members (Dict.ofList entries).entries
    rw [Dict.entries_ofList (keys ▸ ascending)]
    exact related
  · intro related
    exact ⟨dict.entries, related, (Dict.ofList_entries dict).symm⟩

theorem eq_object_of_dictReader {read : Reader α} {value : Json} {dict : Dict α}
    (accepted : dictReader read origin (value.spelled spell) = .ok dict) :
    ∃ members, value = .object members := by
  cases value with
  | object members => exact ⟨members, rfl⟩
  | null | bool b | number n | string s | array items =>
      simp only [spelled, dictReader, refuse_ne_ok] at accepted

/-- Entries that were read from members are written back as them just when each
value is. -/
theorem map_entries_eq_iff {β : Type} {relation : Json → β → Prop} {toJson : β → Json}
    {lossless : Json → Prop} {members : List (String × Json)} {entries : List (String × β)}
    (related : List.Forall₂ (EntryOf relation) members entries)
    (law : ∀ member ∈ members, ∀ a, relation member.2 a →
      (toJson a = member.2 ↔ lossless member.2)) :
    entries.map (fun (key, a) => (key, toJson a)) = members ↔
      ∀ member ∈ members, lossless member.2 := by
  induction related with
  | nil => simp only [List.map_nil, List.not_mem_nil, false_implies, implies_true]
  | @cons member entry rest others first _ inductionHypothesis =>
      obtain ⟨key, a⟩ := entry
      obtain ⟨named, held⟩ := first
      change key = member.1 at named
      subst named
      have later := inductionHypothesis fun other listed =>
        law other (List.mem_cons_of_mem member listed)
      rw [List.map_cons, List.cons.injEq, List.forall_mem_cons, later,
        ← law member List.mem_cons_self a held]
      exact and_congr_left' ⟨fun same => congrArg Prod.snd same, fun same => congrArg _ same⟩

/-! ## Shapes -/

/-- How a kind of data is written and read.  Writing back what was read gives the
value again just when the value is lossless, and reading what was written gives
the data again just when the data is clean.  The second law is for data whose
parts are sound, as everything is that can come up. -/
structure Shape (toJson : α → Json) (read : Reader α) (Lossless : Json → Prop)
    (Sound Clean : α → Prop) : Prop where
  toJson_eq_iff : ∀ {origin : Origin} {spell : String → List Char} {value : Json} {a : α},
    origin.Allows value.depth → value.Canonical → read origin (value.spelled spell) = .ok a →
      (toJson a = value ↔ Lossless value)
  read_toJson_iff : ∀ (spell : String → List Char) {origin : Origin} {a : α},
    origin.Allows (toJson a).depth → Sound a →
      (read origin ((toJson a).spelled spell) = .ok a ↔ Clean a)

theorem depth_le_depthMembers {members : List (String × Json)} {member : String × Json}
    (listed : member ∈ members) : member.2.depth ≤ depthMembers members := by
  induction members with
  | nil => cases listed
  | cons first rest inductionHypothesis =>
      simp only [depthMembers]
      rcases List.mem_cons.1 listed with rfl | later
      · exact Nat.le_max_left _ _
      · exact Nat.le_trans (inductionHypothesis later) (Nat.le_max_right _ _)

/-- Every member of a value has a property. -/
def EachMember (property : Json → Prop) (value : Json) : Prop :=
  ∀ name content, value.member? name = some content → property content

/-- Dictionaries have the shape that their values have. -/
theorem Shape.dict {read : Reader α} {toJson : α → Json} {Lossless : Json → Prop}
    {Sound Clean : α → Prop} (shape : Shape toJson read Lossless Sound Clean) :
    Shape (fun dict => ofDict (dict.map toJson)) (dictReader read) (EachMember Lossless)
      (fun dict => ∀ key a, dict.get? key = some a → Sound a)
      (fun dict => ∀ key a, dict.get? key = some a → Clean a) where
  toJson_eq_iff := by
    intro origin spell value dict allows canonical accepted
    obtain ⟨members, rfl⟩ := eq_object_of_dictReader accepted
    simp only [depth] at allows
    obtain ⟨inner, entered, allowsInner⟩ := allows.enter
    simp only [Canonical] at canonical
    obtain ⟨ascending, each⟩ := canonical
    have related := (dictReader_object entered ascending).1 accepted
    have law : ∀ member ∈ members, ∀ a, read inner (member.2.spelled spell) = .ok a →
        (toJson a = member.2 ↔ Lossless member.2) := by
      intro member listed a accepted
      exact shape.toJson_eq_iff (allowsInner.mono (depth_le_depthMembers listed))
        (canonicalMembers_iff.1 each member listed) accepted
    rw [ofDict, object.injEq, Dict.map, map_entries_eq_iff related law]
    have distinct := Dict.nodup_of_ascending ascending
    constructor
    · intro lossless name content found
      exact lossless _ ((Dict.lookup_eq_some_iff distinct).1 found)
    · intro lossless member listed
      exact lossless member.1 member.2 ((Dict.lookup_eq_some_iff distinct).2 listed)
  read_toJson_iff := by
    intro spell origin dict allows sound
    simp only [ofDict, depth] at allows
    obtain ⟨inner, entered, allowsInner⟩ := allows.enter
    have law : ∀ key a, dict.get? key = some a →
        (read inner ((toJson a).spelled spell) = .ok a ↔ Clean a) := by
      intro key a found
      have written : (dict.map toJson).get? key = some (toJson a) := by
        rw [Dict.get?_map, found, Option.map_some]
      have bounded := depth_le_depthMembers (Dict.get?_eq_some_iff.1 written)
      exact shape.read_toJson_iff spell (allowsInner.mono bounded) (sound key a found)
    rw [ofDict, dictReader_object entered (dict.map toJson).ascending]
    simp only [Dict.map, List.forall₂_map_left_iff, List.forall₂_same, EntryOf, true_and]
    constructor
    · intro unchanged key a found
      exact (law key a found).1 (unchanged (key, a) (Dict.get?_eq_some_iff.1 found))
    · intro clean entry listed
      have found : dict.get? entry.1 = some entry.2 := Dict.get?_eq_some_iff.2 listed
      exact (law entry.1 entry.2 found).2 (clean entry.1 entry.2 found)

/-! ## Records -/

/-- What a step does that reads one member of a record into a state.  `view`
shows the fields of a state that have been read, `holds` says what a field makes
of a value, and a member that is no field only has to pass. -/
structure FieldReader (spell : String → List Char) (fields : List String)
    (holds : String → Json → ρ → Prop) (view : σ → String → Option ρ) (passes : Json → Prop)
    (step : σ → String → Document → Except ReadError σ) : Prop where
  /-- A field is read once and shows afterwards what it made of the value. -/
  reads : ∀ {state next : σ} {name : String} {value : Json}, name ∈ fields →
    step state name (value.spelled spell) = .ok next →
      view state name = none ∧ ∃ content, holds name value content ∧ view next name = some content
  /-- All other fields show what they showed before. -/
  frame : ∀ {state next : σ} {name other : String} {value : Json},
    other ≠ name ∨ other ∉ fields →
    step state name (value.spelled spell) = .ok next → view next other = view state other
  /-- A step fails only at a field that was read before or has the wrong value,
  or at another member that does not pass. -/
  accepts : ∀ {state : σ} {name : String} {value : Json},
    (name ∈ fields → view state name = none ∧ ∃ content, holds name value content) →
    (name ∉ fields → passes value) → ∃ next, step state name (value.spelled spell) = .ok next

/-- A record is read from the members of an object. -/
theorem objectReader_spelled {type : String}
    {read : Origin → List (Key × Document) → Ending → Except ReadError α} {value : Json} {a : α} :
    objectReader type read origin (value.spelled spell) = .ok a ↔
      ∃ members, value = .object members ∧ ∃ inner, origin.enter = .ok inner ∧
        read inner (spelledMembers spell members) .closed = .ok a := by
  cases value with
  | object members =>
      simp only [spelled, objectReader, Outcome.bind_eq_ok, object.injEq, exists_eq_left']
  | null | bool b | number n | string s | array items =>
      simp only [spelled, objectReader, refuse_ne_ok, reduceCtorEq, false_and, exists_false]

namespace FieldReader

variable {fields : List String} {holds : String → Json → ρ → Prop} {view : σ → String → Option ρ}
  {passes : Json → Prop} {step : σ → String → Document → Except ReadError σ}

theorem foldMembers_cons {state final : σ} {key : String} {value : Json}
    {rest : List (String × Json)} :
    foldMembers step .closed state (spelledMembers spell ((key, value) :: rest)) = .ok final ↔
      ∃ next, step state key (value.spelled spell) = .ok next ∧
        foldMembers step .closed next (spelledMembers spell rest) = .ok final := by
  simp only [spelledMembers, foldMembers, Key.text, Outcome.ok_bind, Outcome.bind_eq_ok]

theorem foldMembers_nil {state final : σ} :
    foldMembers step .closed state (spelledMembers spell []) = .ok final ↔ state = final := by
  simp only [spelledMembers, foldMembers, Ending.finish, Ending.fault?, Outcome.ok_bind,
    Outcome.pure_eq_ok]

/-- A field that no member names shows what it showed before. -/
theorem view_of_not_mem (reader : FieldReader spell fields holds view passes step)
    {members : List (String × Json)} {state final : σ} {name : String}
    (unnamed : name ∉ members.map Prod.fst)
    (folded : foldMembers step .closed state (spelledMembers spell members) = .ok final) :
    view final name = view state name := by
  induction members generalizing state with
  | nil => rw [foldMembers_nil.1 folded]
  | cons member rest inductionHypothesis =>
      obtain ⟨key, value⟩ := member
      obtain ⟨next, stepped, foldedRest⟩ := foldMembers_cons.1 folded
      simp only [List.map_cons, List.mem_cons, not_or] at unnamed
      rw [inductionHypothesis unnamed.2 foldedRest, reader.frame (.inl unnamed.1) stepped]

/-- After all members each field shows what it made of the member that it names. -/
theorem rel_view (reader : FieldReader spell fields holds view passes step)
    {members : List (String × Json)} (distinct : (members.map Prod.fst).Nodup)
    {state final : σ} {name : String} (field : name ∈ fields) (fresh : view state name = none)
    (folded : foldMembers step .closed state (spelledMembers spell members) = .ok final) :
    Option.Rel (holds name) (members.lookup name) (view final name) := by
  induction members generalizing state with
  | nil =>
      rw [← foldMembers_nil.1 folded, fresh, List.lookup_nil]
      exact .none
  | cons member rest inductionHypothesis =>
      obtain ⟨key, value⟩ := member
      obtain ⟨next, stepped, foldedRest⟩ := foldMembers_cons.1 folded
      simp only [List.map_cons, List.nodup_cons] at distinct
      by_cases same : name = key
      · subst same
        obtain ⟨_, content, held, shown⟩ := reader.reads field stepped
        rw [List.lookup_cons_self, reader.view_of_not_mem distinct.1 foldedRest, shown]
        exact .some held
      · rw [List.lookup_cons, beq_false_of_ne same]
        exact inductionHypothesis distinct.2 ((reader.frame (.inl same) stepped).trans fresh)
          foldedRest

/-- Fields that show the values themselves show the members of the object. -/
theorem view_eq_lookup {holds : String → Json → Json → Prop} {view : σ → String → Option Json}
    (reader : FieldReader spell fields holds view passes step)
    (same : ∀ {name : String} {value content : Json}, holds name value content → content = value)
    {members : List (String × Json)} (distinct : (members.map Prod.fst).Nodup)
    {state final : σ} {name : String} (field : name ∈ fields) (fresh : view state name = none)
    (folded : foldMembers step .closed state (spelledMembers spell members) = .ok final) :
    view final name = members.lookup name := by
  have related := reader.rel_view distinct field fresh folded
  cases found : members.lookup name with
  | none =>
      rw [found] at related
      exact eq_none_of_rel_none related
  | some value =>
      rw [found] at related
      obtain ⟨content, shown, held⟩ := exists_of_rel_some_left related
      rw [shown, same held]

/-- Members that fit are read. -/
theorem exists_foldMembers (reader : FieldReader spell fields holds view passes step)
    {members : List (String × Json)} (distinct : (members.map Prod.fst).Nodup) {state : σ}
    (fresh : ∀ name ∈ fields, name ∈ members.map Prod.fst → view state name = none)
    (fit : ∀ member ∈ members, member.1 ∈ fields → ∃ content, holds member.1 member.2 content)
    (pass : ∀ member ∈ members, member.1 ∉ fields → passes member.2) :
    ∃ final, foldMembers step .closed state (spelledMembers spell members) = .ok final := by
  induction members generalizing state with
  | nil => exact ⟨state, foldMembers_nil.2 rfl⟩
  | cons member rest inductionHypothesis =>
      obtain ⟨key, value⟩ := member
      simp only [List.map_cons, List.nodup_cons] at distinct
      have stepAccepts : ∃ next, step state key (value.spelled spell) = .ok next :=
        reader.accepts
          (fun field => ⟨fresh key field List.mem_cons_self,
            fit (key, value) List.mem_cons_self field⟩)
          (pass (key, value) List.mem_cons_self)
      obtain ⟨next, stepped⟩ := stepAccepts
      have freshRest : ∀ name ∈ fields, name ∈ rest.map Prod.fst → view next name = none := by
        intro name field named
        have differs : name ≠ key := fun equal => distinct.1 (equal ▸ named)
        rw [reader.frame (.inl differs) stepped]
        exact fresh name field (List.mem_cons_of_mem key named)
      obtain ⟨final, folded⟩ := inductionHypothesis distinct.2 freshRest
        (fun member later => fit member (List.mem_cons_of_mem _ later))
        (fun member later => pass member (List.mem_cons_of_mem _ later))
      exact ⟨final, foldMembers_cons.2 ⟨next, stepped, folded⟩⟩

end FieldReader

/-- What stands in the second of two related lists is related to something in the first. -/
theorem exists_of_forall₂ {β γ : Type} {related : β → γ → Prop} {xs : List β} {ys : List γ}
    (all : List.Forall₂ related xs ys) : ∀ y ∈ ys, ∃ x ∈ xs, related x y := by
  induction all with
  | nil => exact fun y impossible => absurd impossible List.not_mem_nil
  | @cons x y others _ here _ inductionHypothesis =>
      intro z listed
      rcases List.mem_cons.1 listed with rfl | later
      · exact ⟨x, List.mem_cons_self, here⟩
      · rcases inductionHypothesis z later with ⟨other, member, there⟩
        exact ⟨other, List.mem_cons_of_mem x member, there⟩

/-! ## Sequences -/

/-- Items are read one by one, in the order in which they stand. -/
theorem readItems_eq_ok_iff {read : Reader α} {items : List Document} {values : List α} :
    readItems read origin items = .ok values ↔
      List.Forall₂ (fun item value => read origin item = .ok value) items values := by
  induction items generalizing values with
  | nil =>
      rw [readItems, List.forall₂_nil_left_iff, Except.ok.injEq]
      exact eq_comm
  | cons item rest inductionHypothesis =>
      simp only [readItems, Outcome.bind_eq_ok, Outcome.pure_eq_ok, inductionHypothesis,
        List.forall₂_cons_left_iff]
      constructor
      · rintro ⟨first, readFirst, others, matched, rfl⟩
        exact ⟨first, others, readFirst, matched, rfl⟩
      · rintro ⟨first, others, readFirst, matched, rfl⟩
        exact ⟨first, readFirst, others, matched, rfl⟩

theorem exists_of_sequenceReader {read : Reader α} {document : Document} {values : List α}
    (accepted : sequenceReader read origin document = .ok values) :
    ∃ inner items ending, document = .array items ending ∧ origin.enter = .ok inner ∧
      List.Forall₂ (fun item value => read inner item = .ok value) items values := by
  cases document with
  | array items ending =>
      simp only [sequenceReader, Outcome.bind_eq_ok, Outcome.pure_eq_ok] at accepted
      rcases accepted with ⟨inner, entered, _, readAll, _, _, rfl⟩
      exact ⟨inner, items, ending, rfl, entered, readItems_eq_ok_iff.1 readAll⟩
  | null | bool b | number n | string content | object members ending | broken fault =>
      exact absurd accepted refuse_ne_ok

/-! ## Fields that are read once -/

theorem once_eq_ok_iff {name : String} {slot result : Option α}
    {value : Except ReadError α} :
    once name slot value = .ok result ↔
      slot = none ∧ ∃ a, value = .ok a ∧ result = some a := by
  cases slot with
  | some a => simp only [once, reduceCtorEq, false_and]
  | none =>
      simp only [once, Outcome.map_eq_ok, true_and]
      exact exists_congr fun a => and_congr_right fun _ => eq_comm

theorem required_eq_ok_iff {name : String} {slot : Option α} {a : α} :
    required name slot = .ok a ↔ slot = some a := by
  cases slot <;> simp only [required, Except.ok.injEq, Option.some.injEq, reduceCtorEq]

/-! ## Elements of arrays that stand for records -/

/-- The next element is missing, or it is read from the next item. -/
theorem next_eq_ok_iff {read : Reader α} {elements after : Elements} {result : Option α} :
    elements.next read = .ok (result, after) ↔
      (elements.items = [] ∧ elements.ending.finish = .ok () ∧ result = none ∧ after = elements) ∨
      ∃ item rest a, elements.items = item :: rest ∧ read elements.origin item = .ok a ∧
        result = some a ∧ after = { elements with items := rest } := by
  rcases elements with ⟨origin, items, ending, length⟩
  cases items with
  | nil =>
      simp only [Elements.next, Outcome.bind_eq_ok, Outcome.pure_eq_ok, Prod.mk.injEq, true_and,
        reduceCtorEq, false_and, exists_false, or_false]
      constructor
      · rintro ⟨_, finished, rfl, rfl⟩
        exact ⟨finished, rfl, rfl⟩
      · rintro ⟨finished, rfl, rfl⟩
        exact ⟨(), finished, rfl, rfl⟩
  | cons item rest =>
      simp only [Elements.next, Outcome.bind_eq_ok, Outcome.pure_eq_ok, Prod.mk.injEq,
        reduceCtorEq, false_and, false_or, List.cons.injEq]
      constructor
      · rintro ⟨a, accepted, rfl, rfl⟩
        exact ⟨item, rest, a, ⟨rfl, rfl⟩, accepted, rfl, rfl⟩
      · rintro ⟨_, _, a, ⟨rfl, rfl⟩, accepted, rfl, rfl⟩
        exact ⟨a, accepted, rfl, rfl⟩

/-- An element that has to be there is read from the next item. -/
theorem nextRequired_eq_ok_iff {read : Reader α} {elements after : Elements} {position : Nat}
    {expected : String} {a : α} :
    elements.nextRequired read position expected = .ok (a, after) ↔
      ∃ item rest, elements.items = item :: rest ∧ read elements.origin item = .ok a ∧
        after = { elements with items := rest } := by
  simp only [Elements.nextRequired, Outcome.bind_eq_ok, Prod.exists, next_eq_ok_iff]
  constructor
  · rintro ⟨_, between, ⟨_, _, rfl, rfl⟩ | ⟨item, rest, found, listed, accepted, rfl, rfl⟩, made⟩
    · cases made
    · cases made
      exact ⟨item, rest, listed, accepted, rfl⟩
  · rintro ⟨item, rest, listed, accepted, rfl⟩
    exact ⟨some a, _, .inr ⟨item, rest, a, listed, accepted, rfl, rfl⟩, rfl⟩

/-! ## Whatever is read -/

/-- Whether all that a reader accepts, damaged or not, has a property. -/
def Yields (read : Reader α) (property : α → Prop) : Prop :=
  ∀ origin document a, read origin document = .ok a → property a

/-- What every step keeps that reads one of the members holds after all of them. -/
theorem foldMembers_induction_of_mem {step : σ → String → Document → Except ReadError σ}
    {ending : Ending} {invariant : σ → Prop} {members : List (Key × Document)} {state final : σ}
    (kept : ∀ state name document next, document ∈ members.map Prod.snd → invariant state →
      step state name document = .ok next → invariant next)
    (holds : invariant state)
    (folded : foldMembers step ending state members = .ok final) : invariant final := by
  induction members generalizing state with
  | nil =>
      simp only [foldMembers, Outcome.bind_eq_ok, Outcome.pure_eq_ok] at folded
      obtain ⟨_, _, rfl⟩ := folded
      exact holds
  | cons member rest inductionHypothesis =>
      obtain ⟨key, document⟩ := member
      simp only [foldMembers, Outcome.bind_eq_ok] at folded
      obtain ⟨name, _, next, stepped, foldedRest⟩ := folded
      apply inductionHypothesis _ (kept state name document next List.mem_cons_self holds stepped)
        foldedRest
      intro state name document next listed
      exact kept state name document next (List.mem_cons_of_mem _ listed)

/-- What every step keeps holds after all members. -/
theorem foldMembers_induction {step : σ → String → Document → Except ReadError σ}
    {ending : Ending} {invariant : σ → Prop}
    (kept : ∀ state name document next, invariant state → step state name document = .ok next →
      invariant next)
    {members : List (Key × Document)} {state final : σ} (holds : invariant state)
    (folded : foldMembers step ending state members = .ok final) : invariant final :=
  foldMembers_induction_of_mem
    (fun state name document next _ => kept state name document next) holds folded

theorem exists_of_objectReader {type : String}
    {read : Origin → List (Key × Document) → Ending → Except ReadError α} {document : Document}
    {a : α} (accepted : objectReader type read origin document = .ok a) :
    ∃ inner members ending, read inner members ending = .ok a := by
  cases document with
  | object members ending =>
      obtain ⟨inner, _, accepted⟩ := Outcome.bind_eq_ok.1 accepted
      exact ⟨inner, members, ending, accepted⟩
  | null | bool b | number n | string content | array items ending | broken fault =>
      exact absurd accepted refuse_ne_ok

theorem Yields.dict {read : Reader α} {property : α → Prop} (yields : Yields read property) :
    Yields (dictReader read) fun dict => ∀ key a, dict.get? key = some a → property a := by
  intro origin document dict accepted
  cases document with
  | object members ending =>
      obtain ⟨inner, _, folded⟩ := Outcome.bind_eq_ok.1 accepted
      have holds : ∀ key a, (Dict.empty : Dict α).get? key = some a → property a := nofun
      have kept : ∀ (state : Dict α) (name : String) (value : Document) (next : Dict α),
          (∀ key a, state.get? key = some a → property a) →
          (do return state.insert name (← read inner value)) = .ok next →
            ∀ key a, next.get? key = some a → property a := by
        intro state name value next holds stepped key a found
        obtain ⟨content, readValue, ⟨rfl⟩⟩ := Outcome.bind_eq_ok.1 stepped
        rw [Dict.get?_insert] at found
        split_ifs at found
        · cases found
          exact yields inner value _ readValue
        · exact holds key a found
      exact foldMembers_induction kept holds folded
  | null | bool b | number n | string content | array items ending | broken fault =>
      exact absurd accepted refuse_ne_ok

/-- A text is read as its document is, if nothing stands behind it. -/
theorem readText_eq_ok_iff {read : Reader α} {text : String} {a : α} :
    readText read text = .ok a ↔
      read (.text maximalDepth) (parse text).document = .ok a ∧ (parse text).trailing = false := by
  simp only [readText, Outcome.bind_eq_ok]
  constructor
  · rintro ⟨value, readValue, accepted⟩
    split_ifs at accepted with trailing
    cases accepted
    exact ⟨readValue, Bool.eq_false_iff.2 trailing⟩
  · rintro ⟨readValue, whole⟩
    refine ⟨a, readValue, ?_⟩
    rw [whole]
    rfl

theorem Yields.text {read : Reader α} {property : α → Prop} (yields : Yields read property)
    {text : String} {a : α} (accepted : readText read text = .ok a) : property a :=
  yields _ _ _ (readText_eq_ok_iff.1 accepted).1

theorem yields_canonical_keep : Yields keep Canonical :=
  fun _ _ _ => canonical_keep

end Json

end Gradebook
