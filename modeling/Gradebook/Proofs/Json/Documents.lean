import Gradebook.Proofs.Json.Acceptance
import Gradebook.Proofs.Json.Depth

namespace Gradebook

namespace Json

/-!
# Keeping what stands in a document

The laws about `Json.keep` so far are for values.  These are for documents as a text has
them, with keys that repeat and places that are damaged.

Where a document comes from decides how deep it may be and nothing about the value that
is kept of it (`keep_eq_ok_iff`).  So a member that is checked where it stands and kept
once its record has been read is kept as it would have been at once.

What is kept never holds an object whose only key is the embedding key.  A kept value that
resolves is therefore plain: the reader of values finds no embedded text in it, or refuses
it.

An object that does not begin with the embedding key is kept as the dictionary of what its
members are kept as, and only a scalar is kept as a scalar.
-/

variable {readEmbedded : String → Except ReadError Json} {origin : Origin}

/-! ## Ends -/

theorem Ending.finish_eq_ok_iff {ending : Ending} {done : Unit} :
    ending.finish = .ok done ↔ ending = .closed := by
  cases ending <;> simp only [Ending.finish, Ending.fault?, reduceCtorEq]

theorem Origin.finish_eq_ok_iff {rest : List (Key × Document)} {ending : Ending} {done : Unit} :
    origin.finish rest ending = .ok done ↔ rest = [] ∧ ending = .closed := by
  cases rest with
  | nil =>
      cases ending with
      | closed => simp only [Origin.finish, and_self]
      | broken fault =>
          rcases fault with ⟨kept, _, _⟩
          cases origin <;> cases kept <;> simp only [Origin.finish, reduceCtorEq, and_false]
      | keyless fault | brokenKey fault rest =>
          cases origin <;> simp only [Origin.finish, reduceCtorEq, and_false]
  | cons member others =>
      cases origin <;> simp only [Origin.finish, reduceCtorEq, false_and]

/-! ## Embedded texts -/

theorem embedded?_eq_ok_some_iff {members rest : List (Key × Document)} {text : String} :
    embedded? members = .ok (some (text, rest)) ↔
      ∃ key, members = (key, .string (.ok text)) :: rest ∧ key.text = .ok embeddingKey := by
  cases members with
  | nil => simp only [embedded?, Except.ok.injEq, reduceCtorEq, false_and, exists_false]
  | cons member others =>
      rcases member with ⟨key, document⟩
      simp only [embedded?, Outcome.bind_eq_ok, List.cons.injEq, Prod.mk.injEq]
      constructor
      · rintro ⟨name, named, held⟩
        split_ifs at held with marked
        · rcases Outcome.bind_eq_ok.1 held with ⟨read, readText, same⟩
          cases Outcome.pure_eq_ok.1 same
          refine ⟨key, ⟨⟨rfl, ?_⟩, rfl⟩, marked ▸ named⟩
          rw [textReader.eq_def] at readText
          split at readText
          · cases readText
            rfl
          · exact absurd readText refuse_ne_ok
        · cases Outcome.pure_eq_ok.1 held
      · rintro ⟨_, ⟨⟨rfl, rfl⟩, rfl⟩, named⟩
        exact ⟨embeddingKey, named, rfl⟩

/-- An object is kept as the value that its only member embeds, or member by member. -/
theorem keepWith_object_eq_ok_iff {members : List (Key × Document)} {ending : Ending}
    {value : Json} :
    keepWith readEmbedded origin (.object members ending) = .ok value ↔
      ∃ inner, origin.enter = .ok inner ∧ ending = .closed ∧
        ((∃ key text, members = [(key, .string (.ok text))] ∧ key.text = .ok embeddingKey ∧
          readEmbedded text = .ok value) ∨
        (embedded? members = .ok none ∧
          ∃ values, keepMembers readEmbedded inner members = .ok values ∧
            Json.object (Dict.ofList values).entries = value)) := by
  simp only [keepWith, Outcome.bind_eq_ok]
  refine exists_congr fun inner => and_congr_right fun _ => ?_
  constructor
  · rintro ⟨_ | ⟨text, rest⟩, formed, kept⟩
    · simp only [Outcome.bind_eq_ok, Outcome.pure_eq_ok, Ending.finish_eq_ok_iff] at kept
      rcases kept with ⟨values, kept, _, closed, same⟩
      exact ⟨closed, .inr ⟨formed, values, kept, same⟩⟩
    · simp only [Outcome.bind_eq_ok, Outcome.pure_eq_ok, Origin.finish_eq_ok_iff] at kept
      rcases kept with ⟨_, readText, _, ⟨rfl, closed⟩, rfl⟩
      rcases embedded?_eq_ok_some_iff.1 formed with ⟨key, alone, named⟩
      exact ⟨closed, .inl ⟨key, text, alone, named, readText⟩⟩
  · rintro ⟨closed, ⟨key, text, alone, named, readText⟩ | ⟨formed, values, kept, same⟩⟩
    · refine ⟨some (text, []), embedded?_eq_ok_some_iff.2 ⟨key, alone, named⟩, ?_⟩
      simp only [Outcome.bind_eq_ok, Outcome.pure_eq_ok, Origin.finish_eq_ok_iff, true_and]
      exact ⟨value, readText, (), closed, rfl⟩
    · refine ⟨none, formed, ?_⟩
      simp only [Outcome.bind_eq_ok, Outcome.pure_eq_ok, Ending.finish_eq_ok_iff]
      exact ⟨values, kept, (), closed, same⟩

/-! ## Origins -/

mutual

/-- A document is kept just when it passes where it stands and is kept once it has been set
aside, and the value is the same. -/
theorem keepWith_eq_ok_iff : ∀ (document : Document) (origin : Origin) (value : Json),
    keepWith readEmbedded origin document = .ok value ↔
      check origin document = .ok () ∧ keepWith readEmbedded .aside document = .ok value
  | .null, _, _ | .bool _, _, _ | .number (some _), _, _ | .string (.ok _), _, _ => by
      simp only [keepWith, check, found, Outcome.ok_bind, Outcome.pure_eq_ok, true_and]
  | .number none, _, _ | .string (.error _), _, _ | .broken _, _, _ => by
      simp only [keepWith, reduceCtorEq, and_false]
  | .array items ending, origin, value => by
      have each := keepItems_eq_ok_iff items
      simp only [keepWith, check, Outcome.bind_eq_ok, Outcome.pure_eq_ok, Ending.finish_eq_ok_iff,
        Origin.enter, Except.ok.injEq, exists_eq_left']
      constructor
      · rintro ⟨inner, entered, values, kept, _, closed, same⟩
        rcases (each inner values).1 kept with ⟨checked, keptAside⟩
        exact ⟨⟨inner, entered, (), checked, closed⟩, values, keptAside, (), closed, same⟩
      · rintro ⟨⟨inner, entered, _, checked, closed⟩, values, keptAside, _, _, same⟩
        exact ⟨inner, entered, values, (each inner values).2 ⟨checked, keptAside⟩, (), closed, same⟩
  | .object members ending, origin, value => by
      have each := keepMembers_eq_ok_iff members
      simp only [keepWith_object_eq_ok_iff, check, Outcome.bind_eq_ok, Ending.finish_eq_ok_iff,
        Origin.enter, Except.ok.injEq, exists_eq_left']
      constructor
      · rintro ⟨inner, entered, closed,
          ⟨key, text, rfl, named, readText⟩ | ⟨formed, values, kept, same⟩⟩
        · have checked : checkMembers inner [(key, .string (.ok text))] = .ok () := by
            simp only [checkMembers, named, check, found, Outcome.ok_bind]
            rfl
          exact ⟨⟨inner, entered, (), checked, closed⟩, closed,
            .inl ⟨key, text, rfl, named, readText⟩⟩
        · rcases (each inner values).1 kept with ⟨checked, keptAside⟩
          exact ⟨⟨inner, entered, (), checked, closed⟩, closed,
            .inr ⟨formed, values, keptAside, same⟩⟩
      · rintro ⟨⟨inner, entered, _, checked, closed⟩, _, embedding | ⟨formed, values, kept, same⟩⟩
        · exact ⟨inner, entered, closed, .inl embedding⟩
        · exact ⟨inner, entered, closed,
            .inr ⟨formed, values, (each inner values).2 ⟨checked, kept⟩, same⟩⟩

theorem keepItems_eq_ok_iff : ∀ (items : List Document) (origin : Origin) (values : List Json),
    keepItems readEmbedded origin items = .ok values ↔
      checkItems origin items = .ok () ∧ keepItems readEmbedded .aside items = .ok values
  | [], _, _ => by simp only [keepItems, checkItems, true_and]
  | item :: rest, origin, values => by
      simp only [keepItems, checkItems, Outcome.bind_eq_ok, Outcome.pure_eq_ok,
        keepWith_eq_ok_iff item origin, keepItems_eq_ok_iff rest origin]
      constructor
      · rintro ⟨value, ⟨checked, kept⟩, others, ⟨checkedRest, keptRest⟩, same⟩
        exact ⟨⟨(), checked, checkedRest⟩, value, kept, others, keptRest, same⟩
      · rintro ⟨⟨_, checked, checkedRest⟩, value, kept, others, keptRest, same⟩
        exact ⟨value, ⟨checked, kept⟩, others, ⟨checkedRest, keptRest⟩, same⟩

theorem keepMembers_eq_ok_iff : ∀ (members : List (Key × Document)) (origin : Origin)
    (values : List (String × Json)),
    keepMembers readEmbedded origin members = .ok values ↔
      checkMembers origin members = .ok () ∧ keepMembers readEmbedded .aside members = .ok values
  | [], _, _ => by simp only [keepMembers, checkMembers, true_and]
  | (key, document) :: rest, origin, values => by
      simp only [keepMembers, checkMembers, Outcome.bind_eq_ok, Outcome.pure_eq_ok,
        keepWith_eq_ok_iff document origin, keepMembers_eq_ok_iff rest origin]
      constructor
      · rintro ⟨name, named, value, ⟨checked, kept⟩, others, ⟨checkedRest, keptRest⟩, same⟩
        exact ⟨⟨name, named, (), checked, checkedRest⟩, name, named, value, kept, others, keptRest,
          same⟩
      · rintro ⟨⟨_, _, _, checked, checkedRest⟩, name, named, value, kept, others, keptRest, same⟩
        exact ⟨name, named, value, ⟨checked, kept⟩, others, ⟨checkedRest, keptRest⟩, same⟩

end

/-- Where a document stands only decides whether it passes. -/
theorem keep_eq_ok_iff {document : Document} {value : Json} :
    keep origin document = .ok value ↔
      check origin document = .ok () ∧ keep .aside document = .ok value :=
  keepWith_eq_ok_iff document origin value

/-! ## Bare objects -/

mutual

/-- No object inside the value has the embedding key and no other one. -/
def Unbare : Json → Prop
  | .array items => UnbareItems items
  | .object members => ¬ Bare (.object members) ∧ UnbareMembers members
  | _ => True

/-- No item holds such an object. -/
def UnbareItems : List Json → Prop
  | [] => True
  | item :: rest => Unbare item ∧ UnbareItems rest

/-- No member value holds such an object. -/
def UnbareMembers : List (String × Json) → Prop
  | [] => True
  | (_, value) :: rest => Unbare value ∧ UnbareMembers rest

end

theorem unbareItems_iff {items : List Json} :
    UnbareItems items ↔ ∀ item ∈ items, item.Unbare := by
  induction items with
  | nil => simp only [UnbareItems, List.not_mem_nil, false_implies, implies_true]
  | cons item rest inductionHypothesis =>
      simp only [UnbareItems, inductionHypothesis, List.mem_cons, forall_eq_or_imp]

theorem unbareMembers_iff {members : List (String × Json)} :
    UnbareMembers members ↔ ∀ member ∈ members, member.2.Unbare := by
  induction members with
  | nil => simp only [UnbareMembers, List.not_mem_nil, false_implies, implies_true]
  | cons member rest inductionHypothesis =>
      simp only [UnbareMembers, inductionHypothesis, List.mem_cons, forall_eq_or_imp]

theorem Unbare.member {value content : Json} {name : String} (unbare : value.Unbare)
    (found : value.member? name = some content) : content.Unbare := by
  cases value with
  | object members =>
      simp only [Unbare] at unbare
      exact unbareMembers_iff.1 unbare.2 (name, content) (Dict.mem_of_lookup found)
  | null | bool b | number n | string s | array items => cases found

theorem hereditary_unbare : Hereditary Unbare where
  scalar := by
    intro value scalar
    cases value with
    | null | bool b | number n | string s => simp only [Unbare]
    | array items | object members => exact absurd scalar id
  array each := unbareItems_iff.2 each
  object := by
    intro members first each
    simp only [Unbare]
    refine ⟨not_bare_ofList first, unbareMembers_iff.2 fun member listed => ?_⟩
    exact each member (Dict.mem_of_mem_ofList listed)

/-- Nothing that is kept holds a bare object. -/
theorem yields_unbare_keep : Yields keep Unbare :=
  fun _ _ _ => hereditary_unbare.of_keep

mutual

/-- A kept value in which every embedded text can be read embeds none. -/
theorem Resolves.plain_of_unbare : ∀ value : Json, value.Resolves → value.Unbare → value.Plain
  | .null, _, _ | .bool _, _, _ | .number _, _, _ | .string _, _, _ => by simp only [Plain]
  | .array items, resolves, unbare => by
      simp only [Resolves] at resolves
      simp only [Unbare] at unbare
      simp only [Plain]
      exact ResolvesItems.plain_of_unbare items resolves unbare
  | .object members, resolves, unbare => by
      simp only [Resolves] at resolves
      simp only [Unbare] at unbare
      rcases resolves with ⟨_, text, _, rfl, _⟩ | ⟨first, resolves⟩
      · exact absurd rfl unbare.1
      · simp only [Plain]
        exact ⟨first, ResolvesMembers.plain_of_unbare members resolves unbare.2⟩

theorem ResolvesItems.plain_of_unbare : ∀ items : List Json, ResolvesItems items →
    UnbareItems items → PlainItems items
  | [], _, _ => by simp only [PlainItems]
  | item :: rest, resolves, unbare => by
      simp only [ResolvesItems] at resolves
      simp only [UnbareItems] at unbare
      simp only [PlainItems]
      exact ⟨Resolves.plain_of_unbare item resolves.1 unbare.1,
        ResolvesItems.plain_of_unbare rest resolves.2 unbare.2⟩

theorem ResolvesMembers.plain_of_unbare : ∀ members : List (String × Json),
    ResolvesMembers members → UnbareMembers members → PlainMembers members
  | [], _, _ => by simp only [PlainMembers]
  | (_, value) :: rest, resolves, unbare => by
      simp only [ResolvesMembers] at resolves
      simp only [UnbareMembers] at unbare
      simp only [PlainMembers]
      exact ⟨Resolves.plain_of_unbare value resolves.1 unbare.1,
        ResolvesMembers.plain_of_unbare rest resolves.2 unbare.2⟩

end

/-! ## Objects -/

theorem Key.text_eq_ok_iff {key : Key} {name : String} :
    key.text = .ok name ↔ key.content = .ok name := by
  refine ⟨content_of_text, fun content => ?_⟩
  simp only [Key.text, content]

/-- Whether a document is an object that begins with the embedding key. -/
def Document.embeds : Document → Bool
  | .object ((key, _) :: _) _ => key.content.toOption == some embeddingKey
  | _ => false

theorem ne_embeddingKey_of_unembedded {key : Key} {document : Document}
    {rest : List (Key × Document)} {ending : Ending} {name : String}
    (unembedded : (Document.object ((key, document) :: rest) ending).embeds = false)
    (named : key.text = .ok name) : name ≠ embeddingKey := by
  rintro rfl
  simp only [Document.embeds, Key.text_eq_ok_iff.1 named, Except.toOption, beq_self_eq_true,
    Bool.true_eq_false] at unembedded

/-- The names of members, in the order in which they stand. -/
def names (members : List (Key × Document)) : List String :=
  members.filterMap fun member => member.1.content.toOption

/-- Keep all members, in the order in which they stand. -/
abbrev keepAll : Origin → List (Key × Document) → Except ReadError (List (String × Json)) :=
  keepMembers ofEmbedded

theorem keepAll_cons_eq_ok_iff {key : Key} {document : Document} {rest : List (Key × Document)}
    {values : List (String × Json)} :
    keepAll origin ((key, document) :: rest) = .ok values ↔
      ∃ name value others, key.text = .ok name ∧ keep origin document = .ok value ∧
        keepAll origin rest = .ok others ∧ (name, value) :: others = values := by
  simp only [keepMembers, Outcome.bind_eq_ok, Outcome.pure_eq_ok]
  constructor
  · rintro ⟨name, named, value, kept, others, keptRest, same⟩
    exact ⟨name, value, others, named, kept, keptRest, same⟩
  · rintro ⟨name, value, others, named, kept, keptRest, same⟩
    exact ⟨name, named, value, kept, others, keptRest, same⟩

theorem names_of_keepAll {members : List (Key × Document)} {values : List (String × Json)}
    (kept : keepAll origin members = .ok values) : names members = values.map Prod.fst := by
  have keys := congrArg (List.filterMap Except.toOption) (keys_keepMembers kept)
  rw [List.filterMap_map, List.filterMap_map] at keys
  exact keys.trans (congrFun List.filterMap_eq_map values)

theorem embedded?_of_keepAll {members : List (Key × Document)} {ending : Ending}
    {values : List (String × Json)}
    (unembedded : (Document.object members ending).embeds = false)
    (kept : keepAll origin members = .ok values) : embedded? members = .ok none := by
  cases members with
  | nil => rfl
  | cons member rest =>
      rcases member with ⟨key, document⟩
      rcases keepAll_cons_eq_ok_iff.1 kept with ⟨name, _, _, named, _⟩
      simp only [embedded?, named, Outcome.ok_bind,
        if_neg (ne_embeddingKey_of_unembedded unembedded named)]
      rfl

/-- An object that embeds nothing is kept as the dictionary of its members. -/
theorem keep_object_eq_ok_iff {members : List (Key × Document)} {ending : Ending} {value : Json}
    (unembedded : (Document.object members ending).embeds = false) :
    keep origin (.object members ending) = .ok value ↔
      ∃ inner values, origin.enter = .ok inner ∧ ending = .closed ∧
        keepAll inner members = .ok values ∧ ofDict (Dict.ofList values) = value := by
  refine keepWith_object_eq_ok_iff.trans ?_
  constructor
  · rintro ⟨inner, entered, closed, ⟨key, text, rfl, named, _⟩ | ⟨_, values, kept, same⟩⟩
    · exact absurd rfl (ne_embeddingKey_of_unembedded unembedded named)
    · exact ⟨inner, values, entered, closed, kept, same⟩
  · rintro ⟨inner, values, entered, closed, kept, same⟩
    exact ⟨inner, entered, closed, .inr ⟨embedded?_of_keepAll unembedded kept, values, kept, same⟩⟩

theorem exists_of_keep_object {document : Document} {members : List (String × Json)}
    (unembedded : document.embeds = false) (kept : keep origin document = .ok (.object members)) :
    ∃ documents inner values, document = .object documents .closed ∧ origin.enter = .ok inner ∧
      keepAll inner documents = .ok values ∧ (Dict.ofList values).entries = members := by
  cases document with
  | object documents ending =>
      rcases (keep_object_eq_ok_iff unembedded).1 kept with
        ⟨inner, values, entered, rfl, keptAll, same⟩
      exact ⟨documents, inner, values, rfl, entered, keptAll, object.inj same⟩
  | null | bool b | broken fault =>
      simp only [keep, keepWith, Except.ok.injEq, reduceCtorEq] at kept
  | number n =>
      cases n <;> simp only [keep, keepWith, Except.ok.injEq, reduceCtorEq] at kept
  | string content =>
      cases content <;> simp only [keep, keepWith, Except.ok.injEq, reduceCtorEq] at kept
  | array items ending =>
      simp only [keep, keepWith, Outcome.bind_eq_ok, Outcome.pure_eq_ok, reduceCtorEq, and_false,
        exists_false] at kept

/-- The values of members with different names are found in the object that is kept. -/
theorem lookup_of_keepAll {members : List (Key × Document)} {values : List (String × Json)}
    (distinct : (names members).Nodup) (kept : keepAll origin members = .ok values)
    {entry : String × Json} (listed : entry ∈ values) :
    (Dict.ofList values).entries.lookup entry.1 = some entry.2 := by
  have nodup := names_of_keepAll kept ▸ distinct
  change (Dict.ofList values).get? entry.1 = some entry.2
  rw [Dict.get?_ofList_of_nodup nodup, Dict.lookup_eq_some_iff nodup]
  exact listed

/-! ## Scalars -/

theorem keep_of_scalar {value : Json} (scalar : value.Scalar) (spell : String → List Char) :
    keep origin (value.spelled spell) = .ok value := by
  cases value with
  | null | bool b | number n | string s => simp only [spelled, keep, keepWith]
  | array items | object members => exact absurd scalar id

/-- Only a scalar is kept as a scalar, unless it is embedded. -/
theorem eq_spelled_of_keep {document : Document} {value : Json} (spell : String → List Char)
    (unembedded : document.embeds = false) (kept : keep origin document = .ok value)
    (scalar : value.Scalar) : document = value.spelled spell := by
  cases document with
  | null | bool b =>
      simp only [keep, keepWith, Except.ok.injEq] at kept
      subst kept
      simp only [spelled]
  | number n =>
      cases n <;> simp only [keep, keepWith, Except.ok.injEq, reduceCtorEq] at kept
      subst kept
      simp only [spelled]
  | string content =>
      cases content <;> simp only [keep, keepWith, Except.ok.injEq, reduceCtorEq] at kept
      subst kept
      simp only [spelled]
  | broken fault => simp only [keep, keepWith, reduceCtorEq] at kept
  | array items ending =>
      simp only [keep, keepWith, Outcome.bind_eq_ok, Outcome.pure_eq_ok] at kept
      rcases kept with ⟨_, _, _, _, _, _, rfl⟩
      exact absurd scalar id
  | object members ending =>
      rcases (keep_object_eq_ok_iff unembedded).1 kept with ⟨_, _, _, _, _, rfl⟩
      exact absurd scalar id

/-! ## Documents that embed nothing -/

mutual

/-- Whether no object inside the document begins with the embedding key. -/
def Document.embedsNothing : Document → Bool
  | .array items _ => itemsEmbedNothing items
  | .object members ending => !(Document.object members ending).embeds && membersEmbedNothing members
  | _ => true

/-- Whether this holds of all items. -/
def itemsEmbedNothing : List Document → Bool
  | [] => true
  | item :: rest => item.embedsNothing && itemsEmbedNothing rest

/-- Whether this holds of all member values. -/
def membersEmbedNothing : List (Key × Document) → Bool
  | [] => true
  | (_, value) :: rest => value.embedsNothing && membersEmbedNothing rest

end

/-- The items of an array or the member values of an object. -/
def Document.parts : Document → List Document
  | .array items _ => items
  | .object members _ => members.map Prod.snd
  | _ => []

theorem embedsNothing_of_mem_parts {document part : Document}
    (literal : document.embedsNothing = true) (listed : part ∈ document.parts) :
    part.embedsNothing = true := by
  cases document with
  | array items ending =>
      simp only [Document.embedsNothing, Document.parts] at literal listed
      induction items with
      | nil => cases listed
      | cons item rest inductionHypothesis =>
          simp only [itemsEmbedNothing, Bool.and_eq_true] at literal
          rcases List.mem_cons.1 listed with rfl | later
          · exact literal.1
          · exact inductionHypothesis literal.2 later
  | object members ending =>
      simp only [Document.embedsNothing, Document.parts, Bool.and_eq_true] at literal listed
      replace literal := literal.2
      induction members with
      | nil => cases listed
      | cons member rest inductionHypothesis =>
          simp only [membersEmbedNothing, Bool.and_eq_true] at literal
          rcases List.mem_cons.1 listed with rfl | later
          · exact literal.1
          · exact inductionHypothesis later literal.2
  | null | bool b | number n | string content | broken fault => cases listed

theorem Origin.allows_depthMembers {members : List (String × Json)}
    (each : ∀ member ∈ members, origin.Allows member.2.depth) :
    origin.Allows (depthMembers members) := by
  induction members with
  | nil =>
      simp only [depthMembers]
      exact origin.allows_zero
  | cons member rest inductionHypothesis =>
      rcases member with ⟨name, value⟩
      simp only [depthMembers]
      exact (each (name, value) List.mem_cons_self).max
        (inductionHypothesis fun member later => each member (List.mem_cons_of_mem _ later))

/-- An object is not deeper than the members that it was made of. -/
theorem allows_ofList {members : List (String × Json)}
    (allows : origin.Allows (depthMembers members)) :
    origin.Allows (depthMembers (Dict.ofList members).entries) := by
  apply Origin.allows_depthMembers
  intro member listed
  exact allows.mono (depth_le_depthMembers (Dict.mem_of_mem_ofList listed))

mutual

/-- What is kept of a document that embeds nothing is not too deep for the place of the
document. -/
theorem allows_of_embedsNothing : ∀ (document : Document) (origin : Origin) (value : Json),
    document.embedsNothing = true → keepWith readEmbedded origin document = .ok value →
      origin.Allows value.depth
  | .null, origin, value, _, kept | .bool _, origin, value, _, kept
  | .number (some _), origin, value, _, kept | .string (.ok _), origin, value, _, kept => by
      cases kept
      simp only [depth]
      exact origin.allows_zero
  | .number none, _, _, _, kept | .string (.error _), _, _, _, kept | .broken _, _, _, _, kept => by
      cases kept
  | .array items ending, origin, value, literal, kept => by
      simp only [Document.embedsNothing] at literal
      simp only [keepWith, Outcome.bind_eq_ok, Outcome.pure_eq_ok] at kept
      rcases kept with ⟨inner, entered, values, keptItems, _, _, rfl⟩
      simp only [depth]
      exact allows_of_enter entered
        (allows_of_itemsEmbedNothing items inner values literal keptItems)
  | .object members ending, origin, value, literal, kept => by
      simp only [Document.embedsNothing, Bool.and_eq_true, Bool.not_eq_true'] at literal
      rcases keepWith_object_eq_ok_iff.1 kept with
        ⟨inner, entered, _, ⟨key, text, rfl, named, _⟩ | ⟨_, values, keptMembers, rfl⟩⟩
      · exact absurd rfl (ne_embeddingKey_of_unembedded literal.1 named)
      · simp only [depth]
        exact allows_of_enter entered (allows_ofList
          (allows_of_membersEmbedNothing members inner values literal.2 keptMembers))

theorem allows_of_itemsEmbedNothing : ∀ (items : List Document) (origin : Origin)
    (values : List Json), itemsEmbedNothing items = true →
      keepItems readEmbedded origin items = .ok values → origin.Allows (depthItems values)
  | [], origin, _, _, kept => by
      cases kept
      simp only [depthItems]
      exact origin.allows_zero
  | item :: rest, origin, _, literal, kept => by
      simp only [itemsEmbedNothing, Bool.and_eq_true] at literal
      simp only [keepItems, Outcome.bind_eq_ok, Outcome.pure_eq_ok] at kept
      rcases kept with ⟨value, first, values, others, rfl⟩
      simp only [depthItems]
      exact (allows_of_embedsNothing item origin value literal.1 first).max
        (allows_of_itemsEmbedNothing rest origin values literal.2 others)

theorem allows_of_membersEmbedNothing : ∀ (members : List (Key × Document)) (origin : Origin)
    (values : List (String × Json)), membersEmbedNothing members = true →
      keepMembers readEmbedded origin members = .ok values → origin.Allows (depthMembers values)
  | [], origin, _, _, kept => by
      cases kept
      simp only [depthMembers]
      exact origin.allows_zero
  | (key, document) :: rest, origin, _, literal, kept => by
      simp only [membersEmbedNothing, Bool.and_eq_true] at literal
      simp only [keepMembers, Outcome.bind_eq_ok, Outcome.pure_eq_ok] at kept
      rcases kept with ⟨name, _, value, first, values, others, rfl⟩
      simp only [depthMembers]
      exact (allows_of_embedsNothing document origin value literal.1 first).max
        (allows_of_membersEmbedNothing rest origin values literal.2 others)

end

end Json

end Gradebook
