import Gradebook.Json.Kept
import Gradebook.Proofs.Dict
import Gradebook.Proofs.Outcome

namespace Gradebook

namespace Json

/-!
# Which values are kept as they are

`Json.keep` is meant to carry a value along.  It does so with one exception: an
object that begins with `Json.embeddingKey` is replaced by the value that its
text holds, or refused.  `Json.Plain` says that no such object stands anywhere
inside a value.

The main statement is an equivalence.  A plain value is kept unchanged from
every origin that allows its depth, and a value that is kept unchanged is plain.
The second half needs that keeping never produces an object whose only key is
the embedding key, so the text of an embedded value cannot bring back the object
in which it stood.

Whatever is kept is canonical, also where the document was not.  This and the like are
instances of one induction over what is kept, `Json.Hereditary`.
-/

/-! ## Plain values -/

mutual

/-- No object inside the value begins with the key that marks an embedded text. -/
def Plain : Json → Prop
  | .array items => PlainItems items
  | .object members => members.head?.map Prod.fst ≠ some embeddingKey ∧ PlainMembers members
  | _ => True

/-- All items are plain. -/
def PlainItems : List Json → Prop
  | [] => True
  | item :: rest => Plain item ∧ PlainItems rest

/-- All member values are plain. -/
def PlainMembers : List (String × Json) → Prop
  | [] => True
  | (_, value) :: rest => Plain value ∧ PlainMembers rest

end

/-- An object with the embedding key and nothing else. -/
def Bare : Json → Prop
  | .object [(key, _)] => key = embeddingKey
  | _ => False

/-! ## Documents of values -/

mutual

/-- The document of a value whose keys are spelled in some way. -/
def spelled (spell : String → List Char) : Json → Document
  | .null => .null
  | .bool b => .bool b
  | .number n => .number (some n)
  | .string s => .string (.ok s)
  | .array items => .array (spelledItems spell items) .closed
  | .object members => .object (spelledMembers spell members) .closed

/-- All items as documents. -/
def spelledItems (spell : String → List Char) : List Json → List Document
  | [] => []
  | item :: rest => spelled spell item :: spelledItems spell rest

/-- All members as documents. -/
def spelledMembers (spell : String → List Char) : List (String × Json) → List (Key × Document)
  | [] => []
  | (key, value) :: rest =>
    (⟨spell key, .ok key⟩, spelled spell value) :: spelledMembers spell rest

end

mutual

theorem toDocument_eq_spelled : ∀ value : Json, value.toDocument = value.spelled String.toList
  | .null | .bool _ | .number _ | .string _ => by simp only [toDocument, spelled]
  | .array items => by simp only [toDocument, spelled, itemDocuments_eq_spelled items]
  | .object members => by simp only [toDocument, spelled, memberDocuments_eq_spelled members]

theorem itemDocuments_eq_spelled : ∀ items : List Json,
    itemDocuments items = spelledItems String.toList items
  | [] => by simp only [itemDocuments, spelledItems]
  | item :: rest => by
      simp only [itemDocuments, spelledItems, toDocument_eq_spelled item,
        itemDocuments_eq_spelled rest]

theorem memberDocuments_eq_spelled : ∀ members : List (String × Json),
    memberDocuments members = spelledMembers String.toList members
  | [] => by simp only [memberDocuments, spelledMembers]
  | (key, value) :: rest => by
      simp only [memberDocuments, spelledMembers, Key.ofString, toDocument_eq_spelled value,
        memberDocuments_eq_spelled rest]

end

/-! ## Depth -/

mutual

/-- How many arrays and objects are open at once inside a value. -/
def depth : Json → Nat
  | .array items => depthItems items + 1
  | .object members => depthMembers members + 1
  | _ => 0

/-- The greatest depth of an item. -/
def depthItems : List Json → Nat
  | [] => 0
  | item :: rest => max (depth item) (depthItems rest)

/-- The greatest depth of a member value. -/
def depthMembers : List (String × Json) → Nat
  | [] => 0
  | (_, value) :: rest => max (depth value) (depthMembers rest)

end

/-- Whether so many arrays and objects may be opened.  Only texts set a limit. -/
def Origin.Allows : Origin → Nat → Prop
  | .text levels, depth => depth ≤ levels
  | _, _ => True

theorem Origin.Allows.mono {origin : Origin} {more fewer : Nat} (allows : origin.Allows more)
    (le : fewer ≤ more) : origin.Allows fewer := by
  cases origin with
  | value => trivial
  | aside => trivial
  | text levels => exact Nat.le_trans le allows

theorem Origin.Allows.enter {origin : Origin} {depth : Nat}
    (allows : origin.Allows (depth + 1)) :
    ∃ inner, origin.enter = .ok inner ∧ inner.Allows depth := by
  cases origin with
  | value => exact ⟨.value, rfl, trivial⟩
  | aside => exact ⟨.aside, rfl, trivial⟩
  | text levels =>
      cases levels with
      | zero => exact absurd allows (Nat.not_succ_le_zero depth)
      | succ levels => exact ⟨.text levels, rfl, Nat.le_of_succ_le_succ allows⟩

/-! ## Plain values are kept -/

theorem canonicalMembers_iff {members : List (String × Json)} :
    CanonicalMembers members ↔ ∀ member ∈ members, member.2.Canonical := by
  induction members with
  | nil => simp only [CanonicalMembers, List.not_mem_nil, false_implies, implies_true]
  | cons member rest inductionHypothesis =>
      simp only [CanonicalMembers, inductionHypothesis, List.mem_cons, forall_eq_or_imp]

theorem plainMembers_iff {members : List (String × Json)} :
    PlainMembers members ↔ ∀ member ∈ members, member.2.Plain := by
  induction members with
  | nil => simp only [PlainMembers, List.not_mem_nil, false_implies, implies_true]
  | cons member rest inductionHypothesis =>
      simp only [PlainMembers, inductionHypothesis, List.mem_cons, forall_eq_or_imp]

section Spelled

variable (readEmbedded : String → Except ReadError Json) (spell : String → List Char)

theorem embedded?_spelledMembers {members : List (String × Json)}
    (first : members.head?.map Prod.fst ≠ some embeddingKey) :
    embedded? (spelledMembers spell members) = .ok none := by
  cases members with
  | nil => rfl
  | cons member rest =>
      have differs : member.1 ≠ embeddingKey := fun equal => first (congrArg some equal)
      simp only [spelledMembers, embedded?, Key.text, Outcome.ok_bind, if_neg differs]
      rfl

mutual

/-- A plain value is kept unchanged. -/
theorem keepWith_spelled : ∀ (value : Json) (origin : Origin), value.Canonical → value.Plain →
    origin.Allows value.depth → keepWith readEmbedded origin (value.spelled spell) = .ok value
  | .null, _, _, _, _ | .bool _, _, _, _, _ | .number _, _, _, _, _ | .string _, _, _, _, _ => by
      simp only [spelled, keepWith]
  | .array items, origin, canonical, plain, allows => by
      simp only [Canonical] at canonical
      simp only [Plain] at plain
      simp only [depth] at allows
      obtain ⟨inner, entered, allowsInner⟩ := allows.enter
      have kept := keepItems_spelled items inner canonical plain allowsInner
      simp only [spelled, keepWith, entered, kept, Outcome.ok_bind]
      rfl
  | .object members, origin, canonical, plain, allows => by
      simp only [Canonical] at canonical
      simp only [Plain] at plain
      simp only [depth] at allows
      obtain ⟨inner, entered, allowsInner⟩ := allows.enter
      have kept := keepMembers_spelled members inner canonical.2 plain.2 allowsInner
      have unembedded := embedded?_spelledMembers spell plain.1
      simp only [spelled, keepWith, entered, unembedded, kept, Outcome.ok_bind,
        Dict.entries_ofList canonical.1]
      rfl

theorem keepItems_spelled : ∀ (items : List Json) (origin : Origin), CanonicalItems items →
    PlainItems items → origin.Allows (depthItems items) →
    keepItems readEmbedded origin (spelledItems spell items) = .ok items
  | [], _, _, _, _ => by simp only [spelledItems, keepItems]
  | item :: rest, origin, canonical, plain, allows => by
      simp only [CanonicalItems] at canonical
      simp only [PlainItems] at plain
      simp only [depthItems] at allows
      simp only [spelledItems, keepItems,
        keepWith_spelled item origin canonical.1 plain.1 (allows.mono (Nat.le_max_left _ _)),
        keepItems_spelled rest origin canonical.2 plain.2 (allows.mono (Nat.le_max_right _ _)),
        Outcome.ok_bind]
      rfl

theorem keepMembers_spelled : ∀ (members : List (String × Json)) (origin : Origin),
    CanonicalMembers members → PlainMembers members → origin.Allows (depthMembers members) →
    keepMembers readEmbedded origin (spelledMembers spell members) = .ok members
  | [], _, _, _, _ => by simp only [spelledMembers, keepMembers]
  | (key, value) :: rest, origin, canonical, plain, allows => by
      simp only [CanonicalMembers] at canonical
      simp only [PlainMembers] at plain
      simp only [depthMembers] at allows
      simp only [spelledMembers, keepMembers, Key.text,
        keepWith_spelled value origin canonical.1 plain.1 (allows.mono (Nat.le_max_left _ _)),
        keepMembers_spelled rest origin canonical.2 plain.2 (allows.mono (Nat.le_max_right _ _)),
        Outcome.ok_bind]
      rfl

end

end Spelled

/-! ## What holds of whatever is kept -/

/-- Whether every embedded text is read as a value with some property. -/
def EmbedsOnly (property : Json → Prop) (readEmbedded : String → Except ReadError Json) : Prop :=
  ∀ text value, readEmbedded text = .ok value → property value

theorem content_of_text {key : Key} {name : String} (named : key.text = .ok name) :
    key.content = .ok name := by
  unfold Key.text at named
  split at named
  · next text content => rw [content, Except.ok.inj named]
  · cases named

theorem keys_keepMembers {readEmbedded : String → Except ReadError Json} {origin : Origin}
    {members : List (Key × Document)} {values : List (String × Json)}
    (kept : keepMembers readEmbedded origin members = .ok values) :
    members.map (fun member => member.1.content) = values.map fun value => .ok value.1 := by
  induction members generalizing values with
  | nil =>
      simp only [keepMembers, Except.ok.injEq] at kept
      subst kept
      rfl
  | cons member rest inductionHypothesis =>
      obtain ⟨key, document⟩ := member
      simp only [keepMembers, Outcome.bind_eq_ok, Outcome.pure_eq_ok] at kept
      obtain ⟨name, named, value, _, values, keptRest, rfl⟩ := kept
      have content := content_of_text named
      simp only [List.map_cons, content, inductionHypothesis keptRest]

theorem head_of_not_embedded {members : List (Key × Document)} {values : List (String × Json)}
    (unembedded : embedded? members = .ok none)
    (keys : members.map (fun member => member.1.content) = values.map fun value => .ok value.1) :
    values.head?.map Prod.fst ≠ some embeddingKey := by
  cases members with
  | nil =>
      cases values with
      | nil => exact nofun
      | cons value rest => cases keys
  | cons member rest =>
      cases values with
      | nil => cases keys
      | cons value others =>
          intro marked
          have content : member.1.content = .ok embeddingKey :=
            (List.cons.inj keys).1.trans (congrArg Except.ok (Option.some.inj marked))
          simp only [embedded?, Key.text, content, Outcome.ok_bind, if_true,
            Outcome.bind_eq_ok, Outcome.pure_eq_ok] at unembedded
          obtain ⟨text, _, impossible⟩ := unembedded
          cases impossible

/-- Whether a value is neither an array nor an object. -/
def Scalar : Json → Prop
  | .array _ | .object _ => False
  | _ => True

/-- A property that scalars have, and that arrays and objects take over from their parts.
The members of an object that is kept do not begin with the embedding key, as they stand. -/
structure Hereditary (property : Json → Prop) : Prop where
  scalar : ∀ {value : Json}, value.Scalar → property value
  array : ∀ {items : List Json}, (∀ item ∈ items, property item) → property (.array items)
  object : ∀ {members : List (String × Json)},
    members.head?.map Prod.fst ≠ some embeddingKey → (∀ member ∈ members, property member.2) →
      property (.object (Dict.ofList members).entries)

namespace Hereditary

variable {property : Json → Prop} {readEmbedded : String → Except ReadError Json}

mutual

/-- Whatever is kept has the property, if what is embedded has it. -/
theorem of_keepWith (hereditary : Hereditary property) (embeds : EmbedsOnly property readEmbedded) :
    ∀ (document : Document) (origin : Origin) (value : Json),
      keepWith readEmbedded origin document = .ok value → property value
  | .null, _, _, kept | .bool _, _, _, kept | .number (some _), _, _, kept
  | .string (.ok _), _, _, kept => by
      simp only [keepWith, Except.ok.injEq] at kept
      subst kept
      exact hereditary.scalar trivial
  | .number none, _, _, kept | .string (.error _), _, _, kept | .broken _, _, _, kept => by
      simp only [keepWith, reduceCtorEq] at kept
  | .array items ending, _, _, kept => by
      simp only [keepWith, Outcome.bind_eq_ok, Outcome.pure_eq_ok] at kept
      rcases kept with ⟨inner, _, values, keptItems, _, _, rfl⟩
      exact hereditary.array (of_keepItems hereditary embeds items inner values keptItems)
  | .object members ending, _, _, kept => by
      simp only [keepWith, Outcome.bind_eq_ok] at kept
      rcases kept with ⟨inner, _, form, formed, kept⟩
      cases form with
      | some embedded =>
          simp only [Outcome.bind_eq_ok, Outcome.pure_eq_ok] at kept
          rcases kept with ⟨value, readValue, _, _, rfl⟩
          exact embeds _ _ readValue
      | none =>
          simp only [Outcome.bind_eq_ok, Outcome.pure_eq_ok] at kept
          rcases kept with ⟨values, keptMembers, _, _, rfl⟩
          exact hereditary.object (head_of_not_embedded formed (keys_keepMembers keptMembers))
            (of_keepMembers hereditary embeds members inner values keptMembers)

theorem of_keepItems (hereditary : Hereditary property)
    (embeds : EmbedsOnly property readEmbedded) : ∀ (items : List Document) (origin : Origin)
    (values : List Json), keepItems readEmbedded origin items = .ok values →
      ∀ value ∈ values, property value
  | [], _, _, kept => by
      simp only [keepItems, Except.ok.injEq] at kept
      subst kept
      intro value impossible
      cases impossible
  | item :: rest, origin, _, kept => by
      simp only [keepItems, Outcome.bind_eq_ok, Outcome.pure_eq_ok] at kept
      rcases kept with ⟨first, keptItem, values, keptRest, rfl⟩
      intro value listed
      rcases List.mem_cons.1 listed with rfl | later
      · exact of_keepWith hereditary embeds item origin value keptItem
      · exact of_keepItems hereditary embeds rest origin values keptRest value later

theorem of_keepMembers (hereditary : Hereditary property)
    (embeds : EmbedsOnly property readEmbedded) : ∀ (members : List (Key × Document))
    (origin : Origin) (values : List (String × Json)),
    keepMembers readEmbedded origin members = .ok values → ∀ member ∈ values, property member.2
  | [], _, _, kept => by
      simp only [keepMembers, Except.ok.injEq] at kept
      subst kept
      intro member impossible
      cases impossible
  | (key, document) :: rest, origin, _, kept => by
      simp only [keepMembers, Outcome.bind_eq_ok, Outcome.pure_eq_ok] at kept
      rcases kept with ⟨name, _, value, keptValue, values, keptRest, rfl⟩
      intro member listed
      rcases List.mem_cons.1 listed with rfl | later
      · exact of_keepWith hereditary embeds document origin value keptValue
      · exact of_keepMembers hereditary embeds rest origin values keptRest member later

end

/-- What holds of every kept value holds of every value that a text embeds. -/
theorem embedsOnly (hereditary : Hereditary property) (depth : Nat) :
    EmbedsOnly property (Json.readEmbedded depth) := by
  induction depth with
  | zero =>
      intro text value impossible
      cases impossible
  | succ depth inductionHypothesis =>
      intro text value read
      simp only [Json.readEmbedded, Outcome.mapError_eq_ok, readText, Outcome.bind_eq_ok] at read
      rcases read with ⟨kept, keptValue, finished⟩
      split at finished
      · exact absurd finished Outcome.throw_ne_ok
      · exact Outcome.pure_eq_ok.1 finished ▸
          hereditary.of_keepWith inductionHypothesis _ _ _ keptValue

theorem of_keep (hereditary : Hereditary property) {origin : Origin} {document : Document}
    {value : Json} (kept : keep origin document = .ok value) : property value :=
  hereditary.of_keepWith (fun text => hereditary.embedsOnly (text.length + 1) text)
    document origin value kept

end Hereditary

/-! ## What is kept is canonical -/

theorem canonicalItems_iff {items : List Json} :
    CanonicalItems items ↔ ∀ item ∈ items, item.Canonical := by
  induction items with
  | nil => simp only [CanonicalItems, List.not_mem_nil, false_implies, implies_true]
  | cons item rest inductionHypothesis =>
      simp only [CanonicalItems, inductionHypothesis, List.mem_cons, forall_eq_or_imp]

theorem canonical_ofList {members : List (String × Json)}
    (canonical : ∀ member ∈ members, member.2.Canonical) :
    (Json.object (Dict.ofList members).entries).Canonical := by
  refine ⟨(Dict.ofList members).ascending, canonicalMembers_iff.2 ?_⟩
  intro member listed
  exact canonical member (Dict.mem_of_mem_ofList listed)

theorem hereditary_canonical : Hereditary Canonical where
  scalar := by
    intro value scalar
    cases value with
    | null | bool b | number n | string s => simp only [Canonical]
    | array items | object members => exact absurd scalar id
  array each := canonicalItems_iff.2 each
  object _ each := canonical_ofList each

/-- Every value that is kept is canonical. -/
theorem canonical_keep {origin : Origin} {document : Document} {value : Json}
    (kept : keep origin document = .ok value) : value.Canonical :=
  hereditary_canonical.of_keep kept

/-! ## Only plain values are kept unchanged -/

theorem not_bare_ofList {members : List (String × Json)}
    (first : members.head?.map Prod.fst ≠ some embeddingKey) :
    ¬ Bare (.object (Dict.ofList members).entries) := by
  cases members with
  | nil => exact id
  | cons member rest =>
      intro bare
      have listed : member.1 ∈ (Dict.ofList (member :: rest)).keys :=
        Dict.mem_keys_ofList List.mem_cons_self
      unfold Dict.keys at listed
      -- a bare object has one key, and the first member's key is another
      generalize (Dict.ofList (member :: rest)).entries = entries at bare listed
      match entries, bare, listed with
      | [(key, _)], bare, listed =>
          have same : member.1 = key := by simpa only [List.map_cons, List.map_nil,
            List.mem_singleton] using listed
          exact first (congrArg some (same.trans bare))

/-- Keeping never makes an object whose only key is the embedding key. -/
theorem hereditary_not_bare : Hereditary (¬ Bare ·) where
  scalar := by
    intro value scalar
    cases value with
    | null | bool b | number n | string s => exact id
    | array items | object members => exact absurd scalar id
  array _ := id
  object first _ := not_bare_ofList first

theorem keys_of_keepMembers_spelled {readEmbedded : String → Except ReadError Json}
    {spell : String → List Char} {origin : Origin} {members values : List (String × Json)}
    (kept : keepMembers readEmbedded origin (spelledMembers spell members) = .ok values) :
    values.map Prod.fst = members.map Prod.fst := by
  induction members generalizing values with
  | nil =>
      simp only [spelledMembers, keepMembers, Except.ok.injEq] at kept
      subst kept
      rfl
  | cons member rest inductionHypothesis =>
      simp only [spelledMembers, keepMembers, Key.text, Outcome.ok_bind, Outcome.bind_eq_ok,
        Outcome.pure_eq_ok] at kept
      obtain ⟨value, _, values, keptRest, rfl⟩ := kept
      simp only [List.map_cons, inductionHypothesis keptRest]

/-- An object that begins with the embedding key is not kept as it is. -/
theorem not_kept_of_embedding {readEmbedded : String → Except ReadError Json}
    (embeds : EmbedsOnly (¬ Bare ·) readEmbedded) {spell : String → List Char}
    {origin : Origin} {value : Json} {rest : List (String × Json)}
    (kept : keepWith readEmbedded origin
      ((Json.object ((embeddingKey, value) :: rest)).spelled spell) =
        .ok (.object ((embeddingKey, value) :: rest))) : False := by
  simp only [spelled, spelledMembers, keepWith, embedded?, Key.text, Outcome.ok_bind, if_true,
    Outcome.bind_eq_ok, Outcome.pure_eq_ok] at kept
  obtain ⟨inner, _, form, ⟨text, _, rfl⟩, kept⟩ := kept
  simp only [Outcome.bind_eq_ok, Outcome.pure_eq_ok] at kept
  obtain ⟨read, readValue, _, finished, rfl⟩ := kept
  -- nothing may follow the text, so the value that it holds would be bare
  cases rest with
  | nil => exact embeds text _ readValue rfl
  | cons member others => cases inner <;> cases finished

mutual

/-- What is kept unchanged is plain. -/
theorem plain_of_keepWith {readEmbedded : String → Except ReadError Json}
    (embeds : EmbedsOnly (¬ Bare ·) readEmbedded) (spell : String → List Char) :
    ∀ (value : Json) (origin : Origin), value.Canonical →
      keepWith readEmbedded origin (value.spelled spell) = .ok value → value.Plain
  | .null, _, _, _ | .bool _, _, _, _ | .number _, _, _, _ | .string _, _, _, _ => by
      simp only [Plain]
  | .array items, _, canonical, kept => by
      simp only [Canonical] at canonical
      simp only [spelled, keepWith, Outcome.bind_eq_ok, Outcome.pure_eq_ok, array.injEq] at kept
      obtain ⟨inner, _, _, keptItems, _, _, same⟩ := kept
      rw [same] at keptItems
      simp only [Plain]
      exact plainItems_of_keepItems embeds spell items inner canonical keptItems
  | .object members, _, canonical, kept => by
      simp only [Canonical] at canonical
      have first : members.head?.map Prod.fst ≠ some embeddingKey := by
        intro marked
        cases members with
        | nil => cases marked
        | cons member rest =>
            obtain ⟨key, value⟩ := member
            cases Option.some.inj marked
            exact not_kept_of_embedding embeds kept
      simp only [spelled, keepWith, Outcome.bind_eq_ok, embedded?_spelledMembers spell first,
        Except.ok.injEq, exists_eq_left', Outcome.pure_eq_ok, object.injEq] at kept
      obtain ⟨inner, _, values, keptMembers, _, _, sorted⟩ := kept
      have keys := keys_of_keepMembers_spelled keptMembers
      rw [Dict.entries_ofList (keys ▸ canonical.1)] at sorted
      rw [sorted] at keptMembers
      simp only [Plain]
      exact ⟨first, plainMembers_of_keepMembers embeds spell members inner canonical.2 keptMembers⟩

theorem plainItems_of_keepItems {readEmbedded : String → Except ReadError Json}
    (embeds : EmbedsOnly (¬ Bare ·) readEmbedded) (spell : String → List Char) :
    ∀ (items : List Json) (origin : Origin), CanonicalItems items →
      keepItems readEmbedded origin (spelledItems spell items) = .ok items → PlainItems items
  | [], _, _, _ => by simp only [PlainItems]
  | item :: rest, origin, canonical, kept => by
      simp only [CanonicalItems] at canonical
      simp only [spelledItems, keepItems, Outcome.bind_eq_ok, Outcome.pure_eq_ok,
        List.cons.injEq] at kept
      obtain ⟨_, keptItem, _, keptRest, sameItem, sameRest⟩ := kept
      rw [sameItem] at keptItem
      rw [sameRest] at keptRest
      simp only [PlainItems]
      exact ⟨plain_of_keepWith embeds spell item origin canonical.1 keptItem,
        plainItems_of_keepItems embeds spell rest origin canonical.2 keptRest⟩

theorem plainMembers_of_keepMembers {readEmbedded : String → Except ReadError Json}
    (embeds : EmbedsOnly (¬ Bare ·) readEmbedded) (spell : String → List Char) :
    ∀ (members : List (String × Json)) (origin : Origin), CanonicalMembers members →
      keepMembers readEmbedded origin (spelledMembers spell members) = .ok members →
        PlainMembers members
  | [], _, _, _ => by simp only [PlainMembers]
  | (key, value) :: rest, origin, canonical, kept => by
      simp only [CanonicalMembers] at canonical
      simp only [spelledMembers, keepMembers, Key.text, Outcome.ok_bind, Outcome.bind_eq_ok,
        Outcome.pure_eq_ok, List.cons.injEq, Prod.mk.injEq, true_and] at kept
      obtain ⟨_, keptValue, _, keptRest, sameValue, sameRest⟩ := kept
      rw [sameValue] at keptValue
      rw [sameRest] at keptRest
      simp only [PlainMembers]
      exact ⟨plain_of_keepWith embeds spell value origin canonical.1 keptValue,
        plainMembers_of_keepMembers embeds spell rest origin canonical.2 keptRest⟩

end

/-! ## Keeping with the values of embedded texts -/

theorem keep_spelled {value : Json} (spell : String → List Char) {origin : Origin}
    (canonical : value.Canonical) (plain : value.Plain) (allows : origin.Allows value.depth) :
    keep origin (value.spelled spell) = .ok value :=
  keepWith_spelled _ spell value origin canonical plain allows

/-- A canonical value that was read before is kept unchanged just when it is
plain. -/
theorem keep_aside_eq_ok_self_iff {value : Json} (spell : String → List Char)
    (canonical : value.Canonical) :
    keep .aside (value.spelled spell) = .ok value ↔ value.Plain := by
  constructor
  · exact plain_of_keepWith (fun text => hereditary_not_bare.embedsOnly (text.length + 1) text)
      spell value .aside canonical
  · intro plain
    exact keep_spelled spell canonical plain trivial

end Json

end Gradebook
