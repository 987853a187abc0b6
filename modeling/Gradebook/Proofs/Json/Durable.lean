import Gradebook.Proofs.Json.Depth

namespace Gradebook

namespace Json

/-!
# Durable values

A value that is sent as a text and kept by its receiver is durable when it
arrives as it was.  Three things can happen to it on the way, and nothing else: a
double may be read as a neighbour, an object that begins with the embedding key
is replaced, and what is too deep is refused.

That these are all is an equivalence for canonical values.  Its second half takes
the text of a value apart together with the value that was kept of it.
-/

mutual

/-- Every number inside the value is read as itself from its own text. -/
def Steady : Json → Prop
  | .number n => n.reread = some n
  | .array items => SteadyItems items
  | .object members => SteadyMembers members
  | _ => True

/-- All items are steady. -/
def SteadyItems : List Json → Prop
  | [] => True
  | item :: rest => Steady item ∧ SteadyItems rest

/-- All member values are steady. -/
def SteadyMembers : List (String × Json) → Prop
  | [] => True
  | (_, value) :: rest => Steady value ∧ SteadyMembers rest

end

/-- A value that arrives as it was sent. -/
structure Durable (value : Json) : Prop where
  steady : value.Steady
  plain : value.Plain
  shallow : value.depth ≤ maximalDepth

theorem steadyMembers_iff {members : List (String × Json)} :
    SteadyMembers members ↔ ∀ member ∈ members, member.2.Steady := by
  induction members with
  | nil => simp only [SteadyMembers, List.not_mem_nil, false_implies, implies_true]
  | cons member rest inductionHypothesis =>
      simp only [SteadyMembers, inductionHypothesis, List.mem_cons, forall_eq_or_imp]

/-! ## What arrives -/

mutual

theorem written_of_steady : ∀ value : Json, value.Steady →
    value.written = value.spelled spellWritten
  | .null, _ | .bool _, _ | .string _, _ => by simp only [written, spelled]
  | .number n, steady => by
      simp only [Steady] at steady
      simp only [written, spelled, steady]
  | .array items, steady => by
      simp only [Steady] at steady
      simp only [written, spelled, writtenItems_of_steady items steady]
  | .object members, steady => by
      simp only [Steady] at steady
      simp only [written, spelled, writtenMembers_of_steady members steady]

theorem writtenItems_of_steady : ∀ items : List Json, SteadyItems items →
    writtenItems items = spelledItems spellWritten items
  | [], _ => by simp only [writtenItems, spelledItems]
  | item :: rest, steady => by
      simp only [SteadyItems] at steady
      simp only [writtenItems, spelledItems, written_of_steady item steady.1,
        writtenItems_of_steady rest steady.2]

theorem writtenMembers_of_steady : ∀ members : List (String × Json), SteadyMembers members →
    writtenMembers members = spelledMembers spellWritten members
  | [], _ => by simp only [writtenMembers, spelledMembers]
  | (key, value) :: rest, steady => by
      simp only [SteadyMembers] at steady
      simp only [writtenMembers, spelledMembers, written_of_steady value steady.1,
        writtenMembers_of_steady rest steady.2]

end

/-! ## Only durable values arrive unchanged -/

theorem contents_writtenMembers (members : List (String × Json)) :
    (writtenMembers members).map (fun member => member.1.content) =
      (members.map Prod.fst).map .ok := by
  induction members with
  | nil => rfl
  | cons member rest inductionHypothesis =>
      simp only [writtenMembers, List.map_cons, inductionHypothesis]

theorem keys_of_keepMembers_written {readEmbedded : String → Except ReadError Json}
    {origin : Origin} {members values : List (String × Json)}
    (kept : keepMembers readEmbedded origin (writtenMembers members) = .ok values) :
    values.map Prod.fst = members.map Prod.fst := by
  have contents := keys_keepMembers kept
  rw [contents_writtenMembers] at contents
  have keys : (values.map Prod.fst).map (@Except.ok Flaw String) =
      (members.map Prod.fst).map .ok := by
    rw [contents, List.map_map]
    rfl
  exact List.map_injective_iff.2 (fun _ _ => Except.ok.inj) keys

mutual

/-- The numbers of a value that arrives unchanged are steady. -/
theorem steady_of_keepWith {readEmbedded : String → Except ReadError Json} :
    ∀ (value : Json) (origin : Origin), value.Canonical →
      keepWith readEmbedded origin value.written = .ok value → value.Steady
  | .null, _, _, _ | .bool _, _, _, _ | .string _, _, _, _ => by
      simp only [Steady]
  | .number n, origin, _, kept => by
      simp only [written] at kept
      simp only [Steady]
      cases reread : n.reread with
      | none =>
          rw [reread] at kept
          simp only [keepWith, reduceCtorEq] at kept
      | some m =>
          rw [reread] at kept
          simp only [keepWith, Except.ok.injEq, number.injEq] at kept
          rw [kept]
  | .array items, _, canonical, kept => by
      simp only [Canonical] at canonical
      simp only [written, keepWith, Outcome.bind_eq_ok, Outcome.pure_eq_ok, array.injEq] at kept
      obtain ⟨inner, _, _, keptItems, _, _, same⟩ := kept
      rw [same] at keptItems
      simp only [Steady]
      exact steadyItems_of_keepItems items inner canonical keptItems
  | .object members, _, canonical, kept => by
      simp only [Canonical] at canonical
      simp only [written, keepWith, Outcome.bind_eq_ok] at kept
      obtain ⟨inner, _, form, formed, kept⟩ := kept
      simp only [Steady]
      obtain rfl | ⟨key, text, rest, rfl, rfl⟩ := exists_of_embedded?_written formed
      · simp only [Outcome.bind_eq_ok, Outcome.pure_eq_ok, object.injEq] at kept
        obtain ⟨values, keptMembers, _, _, sorted⟩ := kept
        have keys := keys_of_keepMembers_written keptMembers
        rw [Dict.entries_ofList (keys ▸ canonical.1)] at sorted
        rw [sorted] at keptMembers
        exact steadyMembers_of_keepMembers members inner canonical.2 keptMembers
      · simp only [Outcome.bind_eq_ok, Outcome.pure_eq_ok] at kept
        obtain ⟨value, _, _, finished, _⟩ := kept
        rw [eq_nil_of_writtenMembers (eq_nil_of_finish finished)]
        simp only [SteadyMembers, Steady, and_self]

theorem steadyItems_of_keepItems {readEmbedded : String → Except ReadError Json} :
    ∀ (items : List Json) (origin : Origin), CanonicalItems items →
      keepItems readEmbedded origin (writtenItems items) = .ok items → SteadyItems items
  | [], _, _, _ => by
      simp only [SteadyItems]
  | item :: rest, origin, canonical, kept => by
      simp only [CanonicalItems] at canonical
      simp only [writtenItems, keepItems, Outcome.bind_eq_ok, Outcome.pure_eq_ok,
        List.cons.injEq] at kept
      obtain ⟨_, keptItem, _, keptRest, sameItem, sameRest⟩ := kept
      rw [sameItem] at keptItem
      rw [sameRest] at keptRest
      simp only [SteadyItems]
      exact ⟨steady_of_keepWith item origin canonical.1 keptItem,
        steadyItems_of_keepItems rest origin canonical.2 keptRest⟩

theorem steadyMembers_of_keepMembers {readEmbedded : String → Except ReadError Json} :
    ∀ (members : List (String × Json)) (origin : Origin), CanonicalMembers members →
      keepMembers readEmbedded origin (writtenMembers members) = .ok members →
      SteadyMembers members
  | [], _, _, _ => by
      simp only [SteadyMembers]
  | (key, value) :: rest, origin, canonical, kept => by
      simp only [CanonicalMembers] at canonical
      simp only [writtenMembers, keepMembers, Key.text, Outcome.ok_bind, Outcome.bind_eq_ok,
        Outcome.pure_eq_ok, List.cons.injEq, Prod.mk.injEq, true_and] at kept
      obtain ⟨_, keptValue, _, keptRest, sameValue, sameRest⟩ := kept
      rw [sameValue] at keptValue
      rw [sameRest] at keptRest
      simp only [SteadyMembers]
      exact ⟨steady_of_keepWith value origin canonical.1 keptValue,
        steadyMembers_of_keepMembers rest origin canonical.2 keptRest⟩

end

/-! ## Texts -/

/-- A canonical value is kept unchanged from its own text just when it is
durable. -/
theorem readText_keep_compress_iff {value : Json} (canonical : value.Canonical) :
    readText keep value.compress = .ok value ↔ value.Durable := by
  rw [readText_compress]
  constructor
  · intro kept
    have shallow : (Origin.text maximalDepth).Allows value.depth :=
      allows_of_keepWith value _ value kept
    have steady := steady_of_keepWith value _ canonical kept
    rw [written_of_steady value steady] at kept
    have plain := plain_of_keepWith
      (fun text => hereditary_not_bare.embedsOnly (text.length + 1) text)
      spellWritten value _ canonical kept
    exact ⟨steady, plain, shallow⟩
  · intro durable
    rw [written_of_steady value durable.steady]
    exact keep_spelled spellWritten canonical durable.plain durable.shallow

/-! ## Texts that are read back -/

/-- A text that may be missing is read as it was written; null stands for a missing one and
for nothing else. -/
theorem nullable_ofOption (origin : Origin) (text : Option String) :
    nullable stringReader origin (ofOption .string text).written = .ok text := by
  cases text with
  | none => simp only [ofOption, written, nullable]
  | some text =>
      simp only [ofOption, written, nullable]
      rfl

/-- Whether the text of a value is read as this value, unless it is too deep to be read at
all. -/
def ReadsBack {α : Type} (read : Reader α) (toJson : α → Json) (a : α) : Prop :=
  (toJson a).depth ≤ maximalDepth → readText read (toJson a).compress = .ok a

/-- What has been read from such a text is the value. -/
theorem ReadsBack.eq {α : Type} {read : Reader α} {toJson : α → Json} {a b : α}
    (readsBack : ReadsBack read toJson a) (bounds : Bounds read)
    (accepted : readText read (toJson a).compress = .ok b) : b = a :=
  Except.ok.inj (accepted.symm.trans (readsBack (bounds.depth_le accepted)))

/-- When somebody has read the text of such a value, the value is durable. -/
theorem ReadsBack.durable {α : Type} {read : Reader α} {value : Json} {a : α}
    (readsBack : ReadsBack keep id value) (canonical : value.Canonical) (bounds : Bounds read)
    (accepted : readText read value.compress = .ok a) : value.Durable :=
  (readText_keep_compress_iff canonical).1 (readsBack (bounds.depth_le accepted))

end Json

end Gradebook
