import Gradebook.Proofs.Json.Reading

namespace Gradebook

namespace Json

/-!
# Which values are accepted

A value that is carried along is accepted whatever it is, with one exception: an
object that begins with `Json.embeddingKey` has to hold a text and nothing else,
and the text has to be readable as a value in its turn.  `Json.Resolves` says so
for all objects inside a value.  It asks for less than `Json.Plain`: a value that
resolves may be kept as another one, but it is kept.

`Json.Accepts` states for a reader which values it accepts, apart from what it
makes of them.  Like the laws about reading it holds for documents that spell
their keys in any way and come from any origin that allows their depth.
-/

/-! ## Values that can be kept -/

/-- What an embedded text is read as. -/
def ofEmbedded (text : String) : Except ReadError Json :=
  readEmbedded (text.length + 1) text

mutual

/-- Every object inside the value that begins with the embedding key holds one
readable text and nothing else. -/
def Resolves : Json → Prop
  | .array items => ResolvesItems items
  | .object members =>
    (members.head?.map Prod.fst = some embeddingKey ∧
      ∃ text inner, members = [(embeddingKey, .string text)] ∧ ofEmbedded text = .ok inner) ∨
    (members.head?.map Prod.fst ≠ some embeddingKey ∧ ResolvesMembers members)
  | _ => True

/-- All items resolve. -/
def ResolvesItems : List Json → Prop
  | [] => True
  | item :: rest => Resolves item ∧ ResolvesItems rest

/-- All member values resolve. -/
def ResolvesMembers : List (String × Json) → Prop
  | [] => True
  | (_, value) :: rest => Resolves value ∧ ResolvesMembers rest

end

mutual

theorem Plain.resolves : ∀ value : Json, value.Plain → value.Resolves
  | .null, _ | .bool _, _ | .number _, _ | .string _, _ => by simp only [Resolves]
  | .array items, plain => by
      simp only [Plain] at plain
      simp only [Resolves]
      exact PlainItems.resolves items plain
  | .object members, plain => by
      simp only [Plain] at plain
      simp only [Resolves]
      exact .inr ⟨plain.1, PlainMembers.resolves members plain.2⟩

theorem PlainItems.resolves : ∀ items : List Json, PlainItems items → ResolvesItems items
  | [], _ => by simp only [ResolvesItems]
  | item :: rest, plain => by
      simp only [PlainItems] at plain
      simp only [ResolvesItems]
      exact ⟨Plain.resolves item plain.1, PlainItems.resolves rest plain.2⟩

theorem PlainMembers.resolves : ∀ members : List (String × Json), PlainMembers members →
    ResolvesMembers members
  | [], _ => by simp only [ResolvesMembers]
  | (_, value) :: rest, plain => by
      simp only [PlainMembers] at plain
      simp only [ResolvesMembers]
      exact ⟨Plain.resolves value plain.1, PlainMembers.resolves rest plain.2⟩

end

section Spelled

variable {spell : String → List Char} {origin : Origin}

theorem textReader_spelled {expected : String} {value : Json} {text : String} :
    textReader expected origin (value.spelled spell) = .ok text ↔ value = .string text := by
  cases value <;>
    simp only [spelled, textReader, refuse_ne_ok, Except.ok.injEq, string.injEq, reduceCtorEq]

/-- Nothing may stand behind the text of an embedded value. -/
theorem finish_closed_iff {members : List (Key × Document)} :
    origin.finish members .closed = .ok () ↔ members = [] := by
  cases members with
  | nil => simp only [Origin.finish]
  | cons member rest => cases origin <;> simp only [Origin.finish, reduceCtorEq]

theorem spelledMembers_eq_nil_iff {members : List (String × Json)} :
    spelledMembers spell members = [] ↔ members = [] := by
  cases members <;> simp only [spelledMembers, reduceCtorEq]

/-- An object that begins with the embedding key is kept just when it holds one
readable text and nothing else. -/
theorem exists_keepWith_embedding_iff (enters : ∃ inner, origin.enter = .ok inner)
    {value : Json} {rest : List (String × Json)} :
    (∃ kept, keepWith ofEmbedded origin
      ((object ((embeddingKey, value) :: rest)).spelled spell) = .ok kept) ↔
      ∃ text inner, (embeddingKey, value) :: rest = [(embeddingKey, .string text)] ∧
        ofEmbedded text = .ok inner := by
  rcases enters with ⟨inner, entered⟩
  simp only [spelled, spelledMembers, keepWith, entered, embedded?, Key.text, Outcome.ok_bind,
    if_true, Outcome.bind_eq_ok, Outcome.pure_eq_ok, textReader_spelled, List.cons.injEq,
    Prod.mk.injEq, true_and]
  constructor
  · rintro ⟨kept, _, ⟨text, held, rfl⟩, read⟩
    simp only [Outcome.bind_eq_ok, Outcome.pure_eq_ok] at read
    rcases read with ⟨value, readText, _, finished, _⟩
    exact ⟨text, value, ⟨held, spelledMembers_eq_nil_iff.1 (finish_closed_iff.1 finished)⟩, readText⟩
  · rintro ⟨text, value, ⟨held, alone⟩, readText⟩
    subst alone
    refine ⟨value, _, ⟨text, held, rfl⟩, ?_⟩
    simp only [readText, Outcome.ok_bind, spelledMembers, finish_closed_iff.2]
    rfl

mutual

/-- A value is kept, as itself or as another one, just when it resolves. -/
theorem exists_keepWith_iff : ∀ (value : Json) (origin : Origin), origin.Allows value.depth →
    ((∃ kept, keepWith ofEmbedded origin (value.spelled spell) = .ok kept) ↔ value.Resolves)
  | .null, _, _ | .bool _, _, _ | .number _, _, _ | .string _, _, _ => by
      simp only [spelled, keepWith, Except.ok.injEq, exists_eq', Resolves]
  | .array items, origin, allows => by
      simp only [depth] at allows
      rcases allows.enter with ⟨inner, entered, allowsInner⟩
      have each := exists_keepItems_iff items inner allowsInner
      simp only [spelled, keepWith, entered, Outcome.ok_bind, Outcome.bind_eq_ok,
        Outcome.pure_eq_ok, Resolves, ← each]
      constructor
      · rintro ⟨_, kept, keptItems, _⟩
        exact ⟨kept, keptItems⟩
      · rintro ⟨kept, keptItems⟩
        exact ⟨.array kept, kept, keptItems, (), rfl, rfl⟩
  | .object members, origin, allows => by
      simp only [depth] at allows
      rcases allows.enter with ⟨inner, entered, allowsInner⟩
      have each := exists_keepMembers_iff members inner allowsInner
      by_cases marked : members.head?.map Prod.fst = some embeddingKey
      · cases members with
        | nil => cases marked
        | cons member rest =>
            rcases member with ⟨key, value⟩
            have same : key = embeddingKey := Option.some.inj marked
            subst same
            rw [exists_keepWith_embedding_iff ⟨inner, entered⟩, Resolves]
            simp only [marked, true_and, ne_eq, not_true_eq_false, false_and, or_false]
      · have unembedded := embedded?_spelledMembers spell marked
        simp only [spelled, keepWith, entered, unembedded, Outcome.ok_bind, Outcome.bind_eq_ok,
          Outcome.pure_eq_ok, Resolves, marked, ne_eq, not_false_eq_true, true_and, false_and,
          false_or, ← each]
        constructor
        · rintro ⟨_, kept, keptMembers, _⟩
          exact ⟨kept, keptMembers⟩
        · rintro ⟨kept, keptMembers⟩
          exact ⟨_, kept, keptMembers, (), rfl, rfl⟩

theorem exists_keepItems_iff : ∀ (items : List Json) (origin : Origin),
    origin.Allows (depthItems items) →
      ((∃ kept, keepItems ofEmbedded origin (spelledItems spell items) = .ok kept) ↔
        ResolvesItems items)
  | [], _, _ => by
      simp only [spelledItems, keepItems, Except.ok.injEq, exists_eq', ResolvesItems]
  | item :: rest, origin, allows => by
      simp only [depthItems] at allows
      have first := exists_keepWith_iff item origin (allows.mono (Nat.le_max_left _ _))
      have others := exists_keepItems_iff rest origin (allows.mono (Nat.le_max_right _ _))
      simp only [spelledItems, keepItems, Outcome.bind_eq_ok, Outcome.pure_eq_ok, ResolvesItems,
        ← first, ← others]
      constructor
      · rintro ⟨_, kept, keptItem, values, keptRest, _⟩
        exact ⟨⟨kept, keptItem⟩, values, keptRest⟩
      · rintro ⟨⟨kept, keptItem⟩, values, keptRest⟩
        exact ⟨kept :: values, kept, keptItem, values, keptRest, rfl⟩

theorem exists_keepMembers_iff : ∀ (members : List (String × Json)) (origin : Origin),
    origin.Allows (depthMembers members) →
      ((∃ kept, keepMembers ofEmbedded origin (spelledMembers spell members) = .ok kept) ↔
        ResolvesMembers members)
  | [], _, _ => by
      simp only [spelledMembers, keepMembers, Except.ok.injEq, exists_eq', ResolvesMembers]
  | (key, value) :: rest, origin, allows => by
      simp only [depthMembers] at allows
      have first := exists_keepWith_iff value origin (allows.mono (Nat.le_max_left _ _))
      have others := exists_keepMembers_iff rest origin (allows.mono (Nat.le_max_right _ _))
      simp only [spelledMembers, keepMembers, Key.text, Outcome.ok_bind, Outcome.bind_eq_ok,
        Outcome.pure_eq_ok, ResolvesMembers, ← first, ← others]
      constructor
      · rintro ⟨_, kept, keptValue, values, keptRest, _⟩
        exact ⟨⟨kept, keptValue⟩, values, keptRest⟩
      · rintro ⟨⟨kept, keptValue⟩, values, keptRest⟩
        exact ⟨(key, kept) :: values, kept, keptValue, values, keptRest, rfl⟩

end

end Spelled

/-- Keeping fails at no value but those that do not resolve. -/
theorem exists_keep_iff {value : Json} (spell : String → List Char) {origin : Origin}
    (allows : origin.Allows value.depth) :
    (∃ kept, keep origin (value.spelled spell) = .ok kept) ↔ value.Resolves :=
  exists_keepWith_iff value origin allows

/-! ## Readers -/

/-- The canonical values that a reader accepts, from every origin that allows
their depth. -/
def Accepts {α : Type} (read : Reader α) (Accepted : Json → Prop) : Prop :=
  ∀ ⦃origin : Origin⦄ ⦃spell : String → List Char⦄ ⦃value : Json⦄, origin.Allows value.depth →
    value.Canonical → ((∃ a, read origin (value.spelled spell) = .ok a) ↔ Accepted value)

/-- Whether a value is an object. -/
def IsObject : Json → Prop
  | .object _ => True
  | _ => False

theorem isObject_iff {value : Json} : value.IsObject ↔ ∃ members, value = .object members := by
  cases value <;> simp only [IsObject, object.injEq, exists_eq', reduceCtorEq, exists_false]

theorem eachMember_of_forall {property : Json → Prop} {members : List (String × Json)}
    (each : ∀ member ∈ members, property member.2) : (object members).EachMember property := by
  intro name content found
  exact each (name, content) (Dict.mem_of_lookup found)

theorem eachMember_and {left right : Json → Prop} {value : Json} :
    value.EachMember (fun content => left content ∧ right content) ↔
      value.EachMember left ∧ value.EachMember right := by
  simp only [EachMember, imp_and, forall_and]

theorem exists_forall₂_entryOf {α : Type} (relation : Json → α → Prop)
    {members : List (String × Json)} (each : ∀ member ∈ members, ∃ a, relation member.2 a) :
    ∃ entries, List.Forall₂ (EntryOf relation) members entries := by
  induction members with
  | nil => exact ⟨[], .nil⟩
  | cons member rest inductionHypothesis =>
      rcases each member List.mem_cons_self with ⟨a, related⟩
      rcases inductionHypothesis fun other later => each other (List.mem_cons_of_mem _ later) with
        ⟨entries, others⟩
      exact ⟨(member.1, a) :: entries, .cons ⟨rfl, related⟩ others⟩

/-- The same for a member of an object. -/
theorem Accepts.of_member {α : Type} {read : Reader α} {Accepted : Json → Prop}
    (accepts : Accepts read Accepted) {inner : Origin} {spell : String → List Char}
    {members : List (String × Json)} (allows : inner.Allows (depthMembers members))
    (canonical : (object members).Canonical) {name : String} {value : Json}
    (found : members.lookup name = some value) :
    (∃ a, read inner (value.spelled spell) = .ok a) ↔ Accepted value := by
  have listed := Dict.mem_of_lookup found
  exact accepts (allows.mono (depth_le_depthMembers listed))
    (canonicalMembers_iff.1 canonical.2 _ listed)

/-- A dictionary is an object each of whose members is accepted. -/
theorem Accepts.dict {α : Type} {read : Reader α} {Accepted : Json → Prop}
    (accepts : Accepts read Accepted) :
    Accepts (dictReader read) fun value => value.IsObject ∧ value.EachMember Accepted := by
  intro origin spell value allows canonical
  constructor
  · rintro ⟨dict, accepted⟩
    rcases eq_object_of_dictReader accepted with ⟨members, rfl⟩
    simp only [depth] at allows
    rcases allows.enter with ⟨inner, entered, allowsInner⟩
    refine ⟨trivial, fun name content found => ?_⟩
    have related := rel_lookup_of_forall₂ ((dictReader_object entered canonical.1).1 accepted) name
    change members.lookup name = some content at found
    rw [found] at related
    rcases exists_of_rel_some_left related with ⟨a, _, readContent⟩
    exact (accepts.of_member allowsInner canonical found).1 ⟨a, readContent⟩
  · rintro ⟨object, each⟩
    rcases isObject_iff.1 object with ⟨members, rfl⟩
    simp only [depth] at allows
    rcases allows.enter with ⟨inner, entered, allowsInner⟩
    have readable : ∀ member ∈ members, ∃ a, read inner (member.2.spelled spell) = .ok a := by
      rintro ⟨name, content⟩ listed
      have found := (Dict.lookup_eq_some_iff (Dict.nodup_of_ascending canonical.1)).2 listed
      exact (accepts.of_member allowsInner canonical found).2 (each name content found)
    rcases exists_forall₂_entryOf (fun value a => read inner (value.spelled spell) = .ok a)
      readable with ⟨entries, related⟩
    simp only [spelled, dictReader, entered, Outcome.ok_bind, foldMembers_insert]
    exact ⟨_, entries, related, rfl⟩

end Json

end Gradebook
