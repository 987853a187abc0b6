import Gradebook.Proofs.Json.Documents
import Gradebook.Proofs.Ledger.Record

namespace Gradebook

/-!
# Readers that agree with keeping

Data can be read off a document at once, or the document can be kept as a value and the
data read off the value.  The two see different things: the first meets every member, the
second only the last one under each key, in the order of the keys.

`Json.Agreement` says that they come to the same.  What is read at once is what the kept
value shows, also where keys repeat.  Where no key repeats, a document can be read at once
if it can be read as a value.  Both are asked of literal documents only: keeping replaces an
object that begins with the embedding key, which a reader of some shape takes as it stands.

Like the other laws about reading, agreement is passed on from the values to dictionaries,
and from the steps of a record to the record.
-/

namespace Json

variable {α σ : Type} {origin inner : Origin}

/-! ## Documents -/

/-- Whether a document is not embedded and, if it is an object, its members pass a test,
given their names. -/
def Document.literal (passes : String → Document → Bool) (document : Document) : Bool :=
  !document.embeds &&
    match document with
    | .object members _ => members.all fun member =>
        member.1.content.toOption.all fun name => passes name member.2
    | _ => true

mutual

/-- Whether no object inside the document repeats a key. -/
def Document.distinct : Document → Bool
  | .array items _ => distinctItems items
  | .object members _ => decide (names members).Nodup && distinctMembers members
  | _ => true

/-- Whether this holds of all items. -/
def distinctItems : List Document → Bool
  | [] => true
  | item :: rest => item.distinct && distinctItems rest

/-- Whether this holds of all member values. -/
def distinctMembers : List (Key × Document) → Bool
  | [] => true
  | (_, value) :: rest => value.distinct && distinctMembers rest

end

theorem distinctMembers_eq_true_iff {members : List (Key × Document)} :
    distinctMembers members = true ↔ ∀ member ∈ members, member.2.distinct = true := by
  induction members with
  | nil => simp only [distinctMembers, List.not_mem_nil, false_implies, implies_true]
  | cons member rest inductionHypothesis =>
      simp only [distinctMembers, Bool.and_eq_true, inductionHypothesis, List.mem_cons,
        forall_eq_or_imp]

/-- Whether all members pass a test, given their names. -/
def Passing (passes : String → Document → Bool) (members : List (Key × Document)) : Prop :=
  ∀ member ∈ members, ∀ name, member.1.text = .ok name → passes name member.2 = true

theorem Passing.tail {passes : String → Document → Bool} {member : Key × Document}
    {rest : List (Key × Document)} (passing : Passing passes (member :: rest)) :
    Passing passes rest :=
  fun other later => passing other (List.mem_cons_of_mem member later)

theorem literal_object {passes : String → Document → Bool} {members : List (Key × Document)}
    {ending : Ending} (literal : (Document.object members ending).literal passes = true) :
    (Document.object members ending).embeds = false ∧ Passing passes members := by
  simp only [Document.literal, Bool.and_eq_true, Bool.not_eq_true', List.all_eq_true] at literal
  refine ⟨literal.1, fun member listed name named => ?_⟩
  have passes := literal.2 member listed
  rw [Key.text_eq_ok_iff.1 named] at passes
  exact passes

theorem unembedded_of_literal {passes : String → Document → Bool} {document : Document}
    (literal : document.literal passes = true) : document.embeds = false := by
  simp only [Document.literal, Bool.and_eq_true, Bool.not_eq_true'] at literal
  exact literal.1

theorem distinct_object {members : List (Key × Document)} {ending : Ending}
    (distinct : (Document.object members ending).distinct = true) :
    (names members).Nodup ∧ ∀ member ∈ members, member.2.distinct = true := by
  simp only [Document.distinct, Bool.and_eq_true, decide_eq_true_eq,
    distinctMembers_eq_true_iff] at distinct
  exact distinct

/-! ## Agreement -/

/-- How reading a document at once compares with keeping it and reading the value. -/
structure Agreement (toJson : α → Json) (read : Reader α) (literal : Document → Bool) : Prop where
  /-- What is read at once is written as the value that is kept. -/
  keep_of_read : ∀ {origin : Origin} {document : Document} {a : α}, literal document = true →
    read origin document = .ok a → keep origin document = .ok (toJson a)
  /-- A document that repeats no key is read at once if what is kept of it is read. -/
  exists_read : ∀ {origin : Origin} {document : Document} {value : Json} {a : α},
    literal document = true → document.distinct = true → keep origin document = .ok value →
      read .value (value.spelled String.toList) = .ok a → ∃ b, read origin document = .ok b

section Dictionaries

variable {toJson : α → Json} {read : Reader α} {literal : Document → Bool}

/-- The members of a dictionary that is read are kept.  Putting in what was read and putting
in what is kept go side by side, so under each key the same value counts. -/
theorem keepAll_of_foldMembers (agreement : Agreement toJson read literal)
    {members : List (Key × Document)} {ending : Ending}
    (passing : Passing (fun _ => literal) members) {dict result : Dict α}
    (folded : foldMembers (fun dict name value => do return dict.insert name (← read inner value))
      ending dict members = .ok result) :
    ending = .closed ∧ ∃ values, keepAll inner members = .ok values ∧
      result.map toJson =
        values.foldl (fun dict (key, value) => dict.insert key value) (dict.map toJson) := by
  induction members generalizing dict with
  | nil =>
      simp only [foldMembers, Outcome.bind_eq_ok, Outcome.pure_eq_ok,
        Ending.finish_eq_ok_iff] at folded
      rcases folded with ⟨_, closed, rfl⟩
      exact ⟨closed, [], rfl, rfl⟩
  | cons member rest inductionHypothesis =>
      rcases member with ⟨key, document⟩
      simp only [foldMembers, Outcome.bind_eq_ok, Outcome.pure_eq_ok] at folded
      rcases folded with ⟨name, named, _, ⟨a, accepted, rfl⟩, folded⟩
      have kept := agreement.keep_of_read (passing _ List.mem_cons_self name named) accepted
      rcases inductionHypothesis passing.tail folded with ⟨closed, values, keptRest, same⟩
      refine ⟨closed, (name, toJson a) :: values,
        keepAll_cons_eq_ok_iff.2 ⟨name, _, values, named, kept, keptRest, rfl⟩, ?_⟩
      rw [same, Dict.map_insert, List.foldl_cons]

/-- Members that are kept are read into a dictionary, if each value is read. -/
theorem exists_foldMembers_insert (agreement : Agreement toJson read literal)
    {members : List (Key × Document)} (passing : Passing (fun _ => literal) members)
    (distinct : ∀ member ∈ members, member.2.distinct = true) {values : List (String × Json)}
    (kept : keepAll inner members = .ok values)
    (readable : ∀ entry ∈ values, ∃ a, read .value (entry.2.spelled String.toList) = .ok a)
    (dict : Dict α) :
    ∃ result, foldMembers
      (fun dict name value => do return dict.insert name (← read inner value))
      .closed dict members = .ok result := by
  induction members generalizing dict values with
  | nil => exact ⟨dict, rfl⟩
  | cons member rest inductionHypothesis =>
      rcases member with ⟨key, document⟩
      rcases keepAll_cons_eq_ok_iff.1 kept with
        ⟨name, value, others, named, keptValue, keptRest, rfl⟩
      rcases readable _ List.mem_cons_self with ⟨a, accepted⟩
      rcases agreement.exists_read (passing _ List.mem_cons_self name named)
        (distinct _ List.mem_cons_self) keptValue accepted with ⟨b, readValue⟩
      rcases inductionHypothesis passing.tail
        (fun member later => distinct member (List.mem_cons_of_mem _ later)) keptRest
        (fun entry later => readable entry (List.mem_cons_of_mem _ later)) (dict.insert name b) with
        ⟨result, folded⟩
      refine ⟨result, ?_⟩
      simp only [foldMembers, named, readValue, Outcome.ok_bind]
      exact folded

/-- Dictionaries agree with keeping if their values do. -/
theorem Agreement.dict (agreement : Agreement toJson read literal) :
    Agreement (fun dict => ofDict (dict.map toJson)) (dictReader read)
      (Document.literal fun _ => literal) where
  keep_of_read := by
    intro origin document dict passes accepted
    cases document with
    | object members ending =>
        rcases literal_object passes with ⟨unembedded, passing⟩
        rcases Outcome.bind_eq_ok.1 accepted with ⟨inner, entered, folded⟩
        rcases keepAll_of_foldMembers agreement passing folded with ⟨closed, values, kept, same⟩
        exact (keep_object_eq_ok_iff unembedded).2
          ⟨inner, values, entered, closed, kept, congrArg ofDict same.symm⟩
    | null | bool b | number n | string content | array items ending | broken fault =>
        exact absurd accepted refuse_ne_ok
  exists_read := by
    intro origin document value dict passes distinct kept accepted
    rcases eq_object_of_dictReader accepted with ⟨members, rfl⟩
    have unembedded : document.embeds = false := unembedded_of_literal passes
    rcases exists_of_keep_object unembedded kept with
      ⟨documents, inner, values, rfl, entered, keptAll, rfl⟩
    rcases literal_object passes with ⟨_, passing⟩
    rcases distinct_object distinct with ⟨apart, each⟩
    have related := (dictReader_object rfl (Dict.ofList values).ascending).1 accepted
    have readable : ∀ entry ∈ values,
        ∃ a, read .value (entry.2.spelled String.toList) = .ok a := by
      intro entry listed
      have shown := rel_lookup_of_forall₂ related entry.1
      rw [lookup_of_keepAll apart keptAll listed] at shown
      rcases exists_of_rel_some_left shown with ⟨a, _, readValue⟩
      exact ⟨a, readValue⟩
    rcases exists_foldMembers_insert agreement passing each keptAll readable Dict.empty with
      ⟨result, folded⟩
    refine ⟨result, ?_⟩
    simp only [dictReader, entered, Outcome.ok_bind]
    exact folded

end Dictionaries

/-! ## Records -/

/-- What a step does that reads one member of a record, as it stands in a document.  A field
shows the value that is kept of its member. -/
structure FieldAgreement (origin : Origin) (fields : List String)
    (literal : String → Document → Bool) (fits : String → Json → Prop)
    (view : σ → String → Option Json)
    (step : σ → String → Document → Except ReadError σ) : Prop where
  /-- A field is read once and shows afterwards what would have been kept. -/
  reads : ∀ {state next : σ} {name : String} {document : Document}, name ∈ fields →
    literal name document = true → step state name document = .ok next →
      view state name = none ∧
        ∃ value, keep origin document = .ok value ∧ view next name = some value
  /-- All other fields show what they showed before. -/
  frame : ∀ {state next : σ} {name other : String} {document : Document}, other ≠ name →
    literal name document = true → step state name document = .ok next →
      view next other = view state other
  /-- A field that has not been read takes every value that fits. -/
  accepts : ∀ {state : σ} {name : String} {document : Document} {value : Json}, name ∈ fields →
    literal name document = true → document.distinct = true → view state name = none →
      keep origin document = .ok value → fits name value →
        ∃ next, step state name document = .ok next
  /-- A member that is no field is checked and nothing else. -/
  passes : ∀ {state next : σ} {name : String} {document : Document}, name ∉ fields →
    (step state name document = .ok next ↔ check origin document = .ok () ∧ next = state)

/-- Whether a dictionary has the members that the state of a record shows, and those that
are carried along. -/
def Shows {fields : List String} (view : σ → String → Option Json) (state : σ)
    (extra : Extra fields) (dict : Dict Json) : Prop :=
  ∀ name, dict.get? name = if name ∈ fields then view state name else extra.members.get? name

theorem foldMembers_cons_eq_ok_iff {step : σ → String → Document → Except ReadError σ}
    {ending : Ending} {state final : σ} {key : Key} {document : Document}
    {rest : List (Key × Document)} :
    foldMembers step ending state ((key, document) :: rest) = .ok final ↔
      ∃ name next, key.text = .ok name ∧ step state name document = .ok next ∧
        foldMembers step ending next rest = .ok final := by
  simp only [foldMembers, Outcome.bind_eq_ok]
  constructor
  · rintro ⟨name, named, next, stepped, folded⟩
    exact ⟨name, next, named, stepped, folded⟩
  · rintro ⟨name, next, named, stepped, folded⟩
    exact ⟨name, named, next, stepped, folded⟩

/-- A step that only checks leaves the state as it is. -/
theorem checked_eq_ok_iff {state next : σ} {document : Document} :
    (do check origin document; return state) = .ok next ↔
      check origin document = .ok () ∧ next = state := by
  simp only [Outcome.bind_eq_ok, Outcome.pure_eq_ok]
  constructor
  · rintro ⟨_, checked, rfl⟩
    exact ⟨checked, rfl⟩
  · rintro ⟨checked, rfl⟩
    exact ⟨(), checked, rfl⟩

/-- What is kept of all members can be carried along by a record. -/
theorem exists_keepMore {reserved : List String} {members : List (Key × Document)}
    {values : List (String × Json)} (kept : keepAll origin members = .ok values)
    (extra : Extra reserved) : ∃ result, extra.keepMore members = .ok result := by
  induction members generalizing extra values with
  | nil => exact ⟨extra, rfl⟩
  | cons member rest inductionHypothesis =>
      rcases member with ⟨key, document⟩
      rcases keepAll_cons_eq_ok_iff.1 kept with
        ⟨name, value, others, named, keptValue, keptRest, rfl⟩
      by_cases taken : name ∈ reserved
      · rw [Extra.keepMore_of_reserved named taken]
        exact inductionHypothesis keptRest extra
      · rw [Extra.keepMore_of_free named taken, (keep_eq_ok_iff.1 keptValue).2, Outcome.ok_bind]
        exact inductionHypothesis keptRest _

theorem Shows.empty {fields : List String} {view : σ → String → Option Json} {state : σ}
    (fresh : ∀ name, view state name = none) :
    Shows view state (Extra.empty : Extra fields) Dict.empty := by
  intro name
  rw [fresh name, Dict.get?_empty]
  exact (ite_self none).symm

namespace FieldAgreement

variable {fields : List String} {literal : String → Document → Bool} {fits : String → Json → Prop}
  {view : σ → String → Option Json} {step : σ → String → Document → Except ReadError σ}

/-- A member that is read as a field is kept as it is shown. -/
theorem shows_field (agreement : FieldAgreement origin fields literal fits view step)
    {state next : σ} {extra : Extra fields} {dict : Dict Json} {name : String}
    {document : Document} (field : name ∈ fields) (passing : literal name document = true)
    (shows : Shows view state extra dict) (stepped : step state name document = .ok next) :
    ∃ value, keep origin document = .ok value ∧ Shows view next extra (dict.insert name value) := by
  rcases agreement.reads field passing stepped with ⟨_, value, kept, shown⟩
  refine ⟨value, kept, fun other => ?_⟩
  by_cases same : other = name
  · subst same
    rw [Dict.get?_insert_self, if_pos field, shown]
  · rw [Dict.get?_insert_of_ne _ _ same, shows other, agreement.frame same passing stepped]

/-- A member that is set aside is kept as it will be carried along. -/
theorem shows_insert {state : σ} {extra : Extra fields} {dict : Dict Json} {name : String}
    {value : Json} (free : name ∉ fields) (shows : Shows view state extra dict) :
    Shows view state (extra.insert name value free) (dict.insert name value) := by
  intro other
  change _ = if other ∈ fields then view state other
    else (extra.members.insert name value).get? other
  by_cases same : other = name
  · subst same
    rw [Dict.get?_insert_self, if_neg free, Dict.get?_insert_self]
  · rw [Dict.get?_insert_of_ne _ _ same, shows other, Dict.get?_insert_of_ne _ _ same]

/-- The members of a record that is read are kept, and as the record shows them.  By
induction on the members; a name that stands twice is no field, and its last value counts
on both sides. -/
theorem keepAll_of_foldMembers (agreement : FieldAgreement origin fields literal fits view step)
    {members : List (Key × Document)} {ending : Ending} (passing : Passing literal members)
    {state final : σ} {extra result : Extra fields} {dict : Dict Json}
    (shows : Shows view state extra dict)
    (folded : foldMembers step ending state members = .ok final)
    (carried : extra.keepMore members = .ok result) :
    ending = .closed ∧ ∃ values, keepAll origin members = .ok values ∧
      Shows view final result
        (values.foldl (fun dict (key, value) => dict.insert key value) dict) := by
  induction members generalizing state extra dict with
  | nil =>
      simp only [foldMembers, Outcome.bind_eq_ok, Outcome.pure_eq_ok,
        Ending.finish_eq_ok_iff] at folded
      rcases folded with ⟨_, closed, rfl⟩
      cases carried
      exact ⟨closed, [], rfl, shows⟩
  | cons member rest inductionHypothesis =>
      rcases member with ⟨key, document⟩
      rcases foldMembers_cons_eq_ok_iff.1 folded with ⟨name, next, named, stepped, foldedRest⟩
      by_cases field : name ∈ fields
      · rw [Extra.keepMore_of_reserved named field] at carried
        rcases agreement.shows_field field (passing _ List.mem_cons_self name named) shows stepped
          with ⟨value, kept, shows⟩
        rcases inductionHypothesis passing.tail shows foldedRest carried with
          ⟨closed, values, keptRest, shows⟩
        exact ⟨closed, (name, value) :: values,
          keepAll_cons_eq_ok_iff.2 ⟨name, value, values, named, kept, keptRest, rfl⟩, shows⟩
      · rw [Extra.keepMore_of_free named field] at carried
        rcases Outcome.bind_eq_ok.1 carried with ⟨value, keptAside, carried⟩
        rcases (agreement.passes field).1 stepped with ⟨checked, rfl⟩
        have kept : keep origin document = .ok value := keep_eq_ok_iff.2 ⟨checked, keptAside⟩
        rcases inductionHypothesis passing.tail (shows_insert field shows) foldedRest carried with
          ⟨closed, values, keptRest, shows⟩
        exact ⟨closed, (name, value) :: values,
          keepAll_cons_eq_ok_iff.2 ⟨name, value, values, named, kept, keptRest, rfl⟩, shows⟩

/-- Members with different names that are kept can be read, if those that are fields fit. -/
theorem exists_foldMembers (agreement : FieldAgreement origin fields literal fits view step)
    {members : List (Key × Document)} (passing : Passing literal members)
    (distinct : ∀ member ∈ members, member.2.distinct = true) {values : List (String × Json)}
    (apart : (values.map Prod.fst).Nodup) (kept : keepAll origin members = .ok values)
    (fit : ∀ entry ∈ values, entry.1 ∈ fields → fits entry.1 entry.2) {state : σ}
    (fresh : ∀ name ∈ fields, name ∈ values.map Prod.fst → view state name = none) :
    ∃ final, foldMembers step .closed state members = .ok final := by
  induction members generalizing state values with
  | nil => exact ⟨state, rfl⟩
  | cons member rest inductionHypothesis =>
      rcases member with ⟨key, document⟩
      rcases keepAll_cons_eq_ok_iff.1 kept with
        ⟨name, value, others, named, keptValue, keptRest, rfl⟩
      simp only [List.map_cons, List.nodup_cons] at apart
      have first := passing _ List.mem_cons_self name named
      have accepted : ∃ next, step state name document = .ok next := by
        by_cases field : name ∈ fields
        · exact agreement.accepts field first (distinct _ List.mem_cons_self)
            (fresh name field List.mem_cons_self) keptValue (fit _ List.mem_cons_self field)
        · exact ⟨state, (agreement.passes field).2 ⟨(keep_eq_ok_iff.1 keptValue).1, rfl⟩⟩
      rcases accepted with ⟨next, stepped⟩
      have freshRest : ∀ other ∈ fields, other ∈ others.map Prod.fst → view next other = none := by
        intro other field listed
        have differs : other ≠ name := fun same => apart.1 (same ▸ listed)
        rw [agreement.frame differs first stepped]
        exact fresh other field (List.mem_cons_of_mem name listed)
      rcases inductionHypothesis passing.tail
        (fun member later => distinct member (List.mem_cons_of_mem _ later)) apart.2 keptRest
        (fun entry later => fit entry (List.mem_cons_of_mem _ later)) freshRest with ⟨final, folded⟩
      exact ⟨final, foldMembers_cons_eq_ok_iff.2 ⟨name, next, named, stepped, folded⟩⟩

/-- An object whose members were read as a record shows them is kept as just these. -/
theorem keep_object (agreement : FieldAgreement inner fields literal fits view step)
    (entered : origin.enter = .ok inner) {members : List (Key × Document)} {ending : Ending}
    (passes : (Document.object members ending).literal literal = true) {fresh final : σ}
    (blank : ∀ name, view fresh name = none) {extra : Extra fields}
    (folded : foldMembers step ending fresh members = .ok final)
    (carried : Extra.ofMembers members = .ok extra) {dict : Dict Json}
    (shown : Shows view final extra dict) :
    keep origin (.object members ending) = .ok (ofDict dict) := by
  rcases literal_object passes with ⟨unembedded, passing⟩
  rcases agreement.keepAll_of_foldMembers passing (Shows.empty blank) folded carried with
    ⟨closed, values, kept, shows⟩
  refine (keep_object_eq_ok_iff unembedded).2
    ⟨inner, values, entered, closed, kept, congrArg ofDict (Dict.ext fun name => ?_)⟩
  exact (shows name).trans (shown name).symm

/-- The members of an object that is kept can be read, if no name repeats and those that are
fields fit.  What has been read shows what was kept. -/
theorem exists_shows_of_keepAll (agreement : FieldAgreement origin fields literal fits view step)
    {members : List (Key × Document)} {ending : Ending}
    (passes : (Document.object members ending).literal literal = true)
    (distinct : (Document.object members ending).distinct = true) {values : List (String × Json)}
    (kept : keepAll origin members = .ok values)
    (fit : ∀ name ∈ fields, ∀ value, (Dict.ofList values).get? name = some value →
      fits name value) {fresh : σ} (blank : ∀ name, view fresh name = none) :
    ∃ final, ∃ extra : Extra fields, foldMembers step .closed fresh members = .ok final ∧
      Extra.ofMembers members = .ok extra ∧ Shows view final extra (Dict.ofList values) := by
  rcases literal_object passes with ⟨_, passing⟩
  rcases distinct_object distinct with ⟨apart, each⟩
  have fitEach : ∀ entry ∈ values, entry.1 ∈ fields → fits entry.1 entry.2 :=
    fun entry listed field => fit entry.1 field entry.2 (lookup_of_keepAll apart kept listed)
  rcases agreement.exists_foldMembers passing each (names_of_keepAll kept ▸ apart) kept fitEach
    (fun name _ _ => blank name) with ⟨final, folded⟩
  rcases exists_keepMore kept (Extra.empty : Extra fields) with ⟨extra, carried⟩
  rcases agreement.keepAll_of_foldMembers passing (Shows.empty blank) folded carried with
    ⟨_, again, keptAgain, shows⟩
  cases kept.symm.trans keptAgain
  exact ⟨final, extra, folded, carried, shows⟩

end FieldAgreement

/-- The members that a record in a document literally has: no field embeds its value. -/
def literalBeside (fields : List String) (name : String) (document : Document) : Bool :=
  decide (name ∉ fields) || !document.embeds

namespace Record

variable {fields : List String} (record : Record α fields)

section Steps

variable (scalar : ∀ (name : String) (value : Json), record.Fits name value → value.Scalar)
  (reads : ∀ {origin : Origin} {a next : α} {name : String} {document : Document},
    name ∈ fields → record.readMember origin a name document = .ok next →
      ∃ value : Json, document = value.spelled String.toList)
  (passes : ∀ {origin : Origin} {a next : α} {name : String} {document : Document},
    name ∉ fields → (record.readMember origin a name document = .ok next ↔
      check origin document = .ok () ∧ next = a))

include scalar reads passes

/-- Fields that take scalars only agree with keeping. -/
theorem fieldAgreement (origin : Origin) :
    FieldAgreement origin fields (literalBeside fields) record.Fits record.member?
      (record.readMember origin) where
  reads := by
    intro a next name document field _ stepped
    rcases reads field stepped with ⟨value, rfl⟩
    rcases (record.fieldReader origin String.toList).reads field stepped with
      ⟨unread, content, ⟨fits, rfl⟩, shown⟩
    exact ⟨unread, content, keep_of_scalar (scalar name _ fits) String.toList, shown⟩
  frame := by
    intro a next name other document differs _ stepped
    by_cases field : name ∈ fields
    · rcases reads field stepped with ⟨value, rfl⟩
      exact (record.fieldReader origin String.toList).frame (.inl differs) stepped
    · rw [((passes field).1 stepped).2]
  accepts := by
    intro a name document value field literal _ unread kept fits
    have unembedded : document.embeds = false := by
      simpa only [literalBeside, field, not_true_eq_false, decide_false, Bool.false_or,
        Bool.not_eq_true'] using literal
    rw [eq_spelled_of_keep String.toList unembedded kept (scalar name value fits)]
    exact (record.fieldReader origin String.toList).accepts
      (fun _ => ⟨unread, value, fits, rfl⟩) fun free => absurd field free
  passes := passes

/-- Records agree with keeping if their fields take scalars only. -/
theorem agreement (type : String) :
    Agreement (fun a => ofDict (record.toDict a)) (record.reader type)
      (Document.literal (literalBeside fields)) where
  keep_of_read := by
    intro origin document a literal accepted
    cases document with
    | object members ending =>
        rcases Outcome.bind_eq_ok.1 accepted with ⟨inner, entered, accepted⟩
        simp only [Outcome.bind_eq_ok, Outcome.pure_eq_ok] at accepted
        rcases accepted with ⟨final, folded, extra, carried, rfl⟩
        refine (record.fieldAgreement scalar reads passes inner).keep_object entered literal
          record.member?_empty folded carried fun name => ?_
        rw [record.get?_toDict, record.member?_withExtra, record.extra_withExtra]
    | null | bool b | number n | string content | array items ending | broken fault =>
        exact absurd accepted refuse_ne_ok
  exists_read := by
    intro origin document value a literal distinct kept accepted
    rcases objectReader_spelled.1 accepted with ⟨members, rfl, _⟩
    rcases exists_of_keep_object (unembedded_of_literal literal) kept with
      ⟨documents, inner, values, rfl, entered, keptAll, rfl⟩
    have unbounded : Origin.value.Allows (depthMembers (Dict.ofList values).entries) := trivial
    have shown := ((record.reader_object_iff rfl unbounded (Dict.ofList values).ascending).1
      accepted).1
    rcases (record.fieldAgreement scalar reads passes inner).exists_shows_of_keepAll literal
      distinct keptAll (fun name field content found =>
        record.fits_of_member? ((shown name field).trans found)) record.member?_empty with
      ⟨final, extra, folded, carried, _⟩
    refine ⟨record.withExtra final extra, ?_⟩
    simp only [reader, objectReader, entered, folded, carried, Outcome.ok_bind]
    rfl

end Steps

end Record

end Json

end Gradebook
