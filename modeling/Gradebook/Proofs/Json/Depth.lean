import Gradebook.Proofs.Json.Reading
import Gradebook.Proofs.Json.Text

namespace Gradebook

namespace Json

/-!
# How deep a text may be

A text in which too many arrays and objects are open at once is refused by whoever
reads it, also where the deep part is only set aside.  So a text that was written from a
value and has been read tells something about the depth of this value, whatever was made
of it.

`Json.Bounds` says this of one reader.  It passes from the readers of parts to the reader
of the whole, one level at a time.
-/

variable {α σ : Type} {origin inner : Origin}

theorem Origin.Allows.max {origin : Origin} {left right : Nat} (first : origin.Allows left)
    (second : origin.Allows right) : origin.Allows (max left right) := by
  cases origin with
  | value | aside => trivial
  | text levels => exact Nat.max_le.2 ⟨first, second⟩

theorem Origin.allows_zero (origin : Origin) : origin.Allows 0 := by
  cases origin with
  | value | aside => trivial
  | text levels => exact Nat.zero_le levels

theorem allows_of_enter {depth : Nat} (entered : origin.enter = .ok inner)
    (allows : inner.Allows depth) : origin.Allows (depth + 1) := by
  cases origin with
  | value | aside => trivial
  | text levels =>
      cases levels with
      | zero => cases entered
      | succ levels =>
          cases entered
          exact Nat.succ_le_succ allows

/-- Whether a reader accepts the texts of values only where their depth is allowed. -/
def Bounds (read : Reader α) : Prop :=
  ∀ (origin : Origin) (value : Json) (a : α), read origin value.written = .ok a →
    origin.Allows value.depth

/-- A text that holds one document and nothing else is read from this document. -/
theorem readText_eq (read : Reader α) {text : String} {document : Document}
    (parsed : parse text = ⟨document, false⟩) :
    readText read text = read (.text maximalDepth) document := by
  simp only [readText, parsed]
  cases read (.text maximalDepth) document with
  | error error => rfl
  | ok a => rfl

/-- A text that was written from a value is read from the document that it holds. -/
theorem readText_compress (read : Reader α) (value : Json) :
    readText read value.compress = read (.text maximalDepth) value.written :=
  readText_eq read (parse_compress value)

theorem readText_pretty (read : Reader α) (value : Json) :
    readText read value.pretty = read (.text maximalDepth) value.written :=
  readText_eq read (parse_pretty value)

theorem Bounds.depth_le {read : Reader α} (bounds : Bounds read) {value : Json} {a : α}
    (accepted : readText read value.compress = .ok a) : value.depth ≤ maximalDepth := by
  rw [readText_compress] at accepted
  exact bounds _ value a accepted

/-! ## Scalars -/

/-- What neither arrays nor objects are read as has no depth. -/
theorem Bounds.of_scalar {read : Reader α}
    (array : ∀ origin items ending a, read origin (.array items ending) ≠ .ok a)
    (object : ∀ origin members ending a, read origin (.object members ending) ≠ .ok a) :
    Bounds read := by
  intro origin value a accepted
  cases value with
  | array items =>
      simp only [written] at accepted
      exact absurd accepted (array _ _ _ _)
  | object members =>
      simp only [written] at accepted
      exact absurd accepted (object _ _ _ _)
  | null | bool b | number n | string s =>
      simp only [depth]
      exact origin.allows_zero

theorem bounds_numberReader : Bounds numberReader :=
  .of_scalar (fun _ _ _ _ => refuse_ne_ok) fun _ _ _ _ => refuse_ne_ok

theorem bounds_naturalReader : Bounds naturalReader :=
  .of_scalar (fun _ _ _ _ => refuse_ne_ok) fun _ _ _ _ => refuse_ne_ok

theorem bounds_boolReader : Bounds boolReader :=
  .of_scalar (fun _ _ _ _ => refuse_ne_ok) fun _ _ _ _ => refuse_ne_ok

theorem bounds_stringReader : Bounds stringReader :=
  .of_scalar (fun _ _ _ _ => refuse_ne_ok) fun _ _ _ _ => refuse_ne_ok

theorem Bounds.nullable {read : Reader α} (bounds : Bounds read) : Bounds (nullable read) := by
  intro origin value result accepted
  cases value with
  | null =>
      simp only [depth]
      exact origin.allows_zero
  | bool b | number n | string s | array items | object members =>
      simp only [written, Json.nullable, Outcome.bind_eq_ok] at accepted
      rcases accepted with ⟨a, accepted, _⟩
      apply bounds origin _ a
      simp only [written]
      exact accepted

/-- Nothing is left of an object in which no further member is wanted. -/
theorem eq_nil_of_finish {rest : List (Key × Document)} {ending : Ending}
    (finished : origin.finish rest ending = .ok ()) : rest = [] := by
  cases rest with
  | nil => rfl
  | cons member others => cases origin <;> cases finished

theorem eq_nil_of_writtenMembers {members : List (String × Json)}
    (none : writtenMembers members = []) : members = [] := by
  cases members with
  | nil => rfl
  | cons member rest => cases none

/-- A name stands in a string, or alone over null in an object. -/
theorem bounds_nameReader (known : List (String × α)) (other : Option α) :
    Bounds (nameReader known other) := by
  intro origin value a accepted
  cases origin with
  | value | aside => trivial
  | text levels =>
      cases value with
      | null | bool b | number n | string s =>
          simp only [depth]
          exact Origin.allows_zero (.text levels)
      | array items =>
          simp only [written, nameReader, reduceCtorEq] at accepted
      | object members =>
          simp only [written, nameReader, Outcome.bind_eq_ok] at accepted
          rcases accepted with ⟨inner, entered, accepted⟩
          simp only [depth]
          apply allows_of_enter entered
          cases members with
          | nil => exact inner.allows_zero
          | cons member rest =>
              rcases member with ⟨key, value⟩
              simp only [writtenMembers, Outcome.bind_eq_ok] at accepted
              rcases accepted with ⟨_, _, _, _, _, unit, _, finished, _⟩
              have shallow : value.depth = 0 := by
                cases value with
                | null | bool b | number n | string s => simp only [depth]
                | array items | object members => exact absurd unit refuse_ne_ok
              have alone : rest = [] := eq_nil_of_writtenMembers (eq_nil_of_finish finished)
              simp only [alone, depthMembers, shallow, Nat.max_zero]
              exact inner.allows_zero

/-! ## Anything -/

mutual

/-- What is set aside is not too deep. -/
theorem allows_of_check : ∀ (value : Json) (origin : Origin),
    check origin value.written = .ok () → origin.Allows value.depth
  | .null, origin, _ | .bool _, origin, _ | .number _, origin, _ | .string _, origin, _ => by
      simp only [depth]
      exact origin.allows_zero
  | .array items, origin, checked => by
      simp only [written, check, Outcome.bind_eq_ok] at checked
      rcases checked with ⟨inner, entered, _, checkedItems, _⟩
      simp only [depth]
      exact allows_of_enter entered (allows_of_checkItems items inner checkedItems)
  | .object members, origin, checked => by
      simp only [written, check, Outcome.bind_eq_ok] at checked
      rcases checked with ⟨inner, entered, _, checkedMembers, _⟩
      simp only [depth]
      exact allows_of_enter entered (allows_of_checkMembers members inner checkedMembers)

theorem allows_of_checkItems : ∀ (items : List Json) (origin : Origin),
    checkItems origin (writtenItems items) = .ok () → origin.Allows (depthItems items)
  | [], origin, _ => by
      simp only [depthItems]
      exact origin.allows_zero
  | item :: rest, origin, checked => by
      simp only [writtenItems, checkItems, Outcome.bind_eq_ok] at checked
      rcases checked with ⟨_, first, others⟩
      simp only [depthItems]
      exact (allows_of_check item origin first).max (allows_of_checkItems rest origin others)

theorem allows_of_checkMembers : ∀ (members : List (String × Json)) (origin : Origin),
    checkMembers origin (writtenMembers members) = .ok () → origin.Allows (depthMembers members)
  | [], origin, _ => by
      simp only [depthMembers]
      exact origin.allows_zero
  | (key, value) :: rest, origin, checked => by
      simp only [writtenMembers, checkMembers, Outcome.bind_eq_ok] at checked
      rcases checked with ⟨_, _, _, first, others⟩
      simp only [depthMembers]
      exact (allows_of_check value origin first).max (allows_of_checkMembers rest origin others)

end

/-- Whether an object stands for a text is seen at its first member, and only a
text may stand there. -/
theorem exists_of_embedded?_written {members : List (String × Json)}
    {form : Option (String × List (Key × Document))}
    (formed : embedded? (writtenMembers members) = .ok form) :
    form = none ∨ ∃ key text rest, members = (key, .string text) :: rest ∧
      form = some (text, writtenMembers rest) := by
  cases members with
  | nil => exact .inl (Except.ok.inj formed).symm
  | cons member rest =>
      obtain ⟨key, value⟩ := member
      simp only [writtenMembers, embedded?, Key.text, Outcome.ok_bind] at formed
      by_cases marked : key = embeddingKey
      · rw [if_pos marked] at formed
        obtain ⟨text, read, ⟨rfl⟩⟩ := Outcome.bind_eq_ok.1 formed
        right
        cases value with
        | string s =>
            obtain rfl : s = text := Except.ok.inj read
            exact ⟨key, s, rest, rfl, rfl⟩
        | null | bool b | number n | array items | object members =>
            exact absurd read refuse_ne_ok
      · rw [if_neg marked] at formed
        exact .inl (Except.ok.inj formed).symm

mutual

/-- What is kept is not too deep where it stands; the depth of an embedded text does not
count. -/
theorem allows_of_keepWith {readEmbedded : String → Except ReadError Json} :
    ∀ (value : Json) (origin : Origin) (kept : Json),
      keepWith readEmbedded origin value.written = .ok kept → origin.Allows value.depth
  | .null, origin, _, _ | .bool _, origin, _, _ | .number _, origin, _, _
  | .string _, origin, _, _ => by
      simp only [depth]
      exact origin.allows_zero
  | .array items, origin, _, kept => by
      simp only [written, keepWith, Outcome.bind_eq_ok] at kept
      rcases kept with ⟨inner, entered, values, keptItems, _⟩
      simp only [depth]
      exact allows_of_enter entered (allows_of_keepItems items inner values keptItems)
  | .object members, origin, _, kept => by
      simp only [written, keepWith, Outcome.bind_eq_ok] at kept
      rcases kept with ⟨inner, entered, form, formed, kept⟩
      simp only [depth]
      apply allows_of_enter entered
      rcases exists_of_embedded?_written formed with rfl | ⟨key, text, rest, rfl, rfl⟩
      · rcases Outcome.bind_eq_ok.1 kept with ⟨values, keptMembers, _⟩
        exact allows_of_keepMembers members inner values keptMembers
      · simp only [Outcome.bind_eq_ok] at kept
        rcases kept with ⟨_, _, _, finished, _⟩
        rw [eq_nil_of_writtenMembers (eq_nil_of_finish finished)]
        simp only [depthMembers, depth]
        exact inner.allows_zero

theorem allows_of_keepItems {readEmbedded : String → Except ReadError Json} :
    ∀ (items : List Json) (origin : Origin) (values : List Json),
      keepItems readEmbedded origin (writtenItems items) = .ok values →
        origin.Allows (depthItems items)
  | [], origin, _, _ => by
      simp only [depthItems]
      exact origin.allows_zero
  | item :: rest, origin, _, kept => by
      simp only [writtenItems, keepItems, Outcome.bind_eq_ok] at kept
      rcases kept with ⟨value, first, values, others, _⟩
      simp only [depthItems]
      exact (allows_of_keepWith item origin value first).max
        (allows_of_keepItems rest origin values others)

theorem allows_of_keepMembers {readEmbedded : String → Except ReadError Json} :
    ∀ (members : List (String × Json)) (origin : Origin) (values : List (String × Json)),
      keepMembers readEmbedded origin (writtenMembers members) = .ok values →
        origin.Allows (depthMembers members)
  | [], origin, _, _ => by
      simp only [depthMembers]
      exact origin.allows_zero
  | (key, value) :: rest, origin, _, kept => by
      simp only [writtenMembers, keepMembers, Outcome.bind_eq_ok] at kept
      rcases kept with ⟨_, _, content, first, values, others, _⟩
      simp only [depthMembers]
      exact (allows_of_keepWith value origin content first).max
        (allows_of_keepMembers rest origin values others)

end

theorem bounds_keep : Bounds keep :=
  fun origin value kept accepted => allows_of_keepWith value origin kept accepted

/-! ## Objects -/

/-- When no step takes what is too deep, the members are not too deep. -/
theorem allows_of_foldMembers {step : σ → String → Document → Except ReadError σ}
    (bounded : ∀ (state : σ) (name : String) (value : Json) (next : σ),
      step state name value.written = .ok next → inner.Allows value.depth)
    {members : List (String × Json)} {state final : σ}
    (folded : foldMembers step .closed state (writtenMembers members) = .ok final) :
    inner.Allows (depthMembers members) := by
  induction members generalizing state with
  | nil =>
      simp only [depthMembers]
      exact inner.allows_zero
  | cons member rest inductionHypothesis =>
      rcases member with ⟨key, value⟩
      simp only [writtenMembers, foldMembers, Outcome.bind_eq_ok] at folded
      rcases folded with ⟨name, _, next, stepped, foldedRest⟩
      simp only [depthMembers]
      exact (bounded state name value next stepped).max (inductionHypothesis foldedRest)

/-- What is read member by member is not too deep when no step takes what is too deep,
whatever is made of the members in the end. -/
theorem Bounds.object {type : String} {fresh : σ}
    {step : Origin → σ → String → Document → Except ReadError σ}
    {finish : Origin → List (Key × Document) → Ending → σ → Except ReadError α}
    (bounded : ∀ (inner : Origin) (state : σ) (name : String) (value : Json) (next : σ),
      step inner state name value.written = .ok next → inner.Allows value.depth) :
    Bounds (objectReader type fun inner members ending => do
      let final ← foldMembers (step inner) ending fresh members
      finish inner members ending final) := by
  intro origin value a accepted
  cases value with
  | object members =>
      simp only [written, objectReader, Outcome.bind_eq_ok] at accepted
      rcases accepted with ⟨inner, entered, final, folded, _⟩
      simp only [depth]
      exact allows_of_enter entered (allows_of_foldMembers (bounded inner) folded)
  | null | bool b | number n | string s | array items => exact absurd accepted refuse_ne_ok

theorem Bounds.dict {read : Reader α} (bounds : Bounds read) : Bounds (dictReader read) := by
  intro origin value dict accepted
  cases value with
  | object members =>
      simp only [written, dictReader, Outcome.bind_eq_ok] at accepted
      rcases accepted with ⟨inner, entered, folded⟩
      simp only [depth]
      apply allows_of_enter entered
      apply allows_of_foldMembers _ folded
      intro state name value next stepped
      rcases Outcome.bind_eq_ok.1 stepped with ⟨a, read, _⟩
      exact bounds inner value a read
  | null | bool b | number n | string s | array items => exact absurd accepted refuse_ne_ok

end Json

end Gradebook
