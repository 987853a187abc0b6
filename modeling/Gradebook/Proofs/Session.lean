import Gradebook.Proofs.Dict
import Gradebook.Proofs.Json.Durable
import Gradebook.Proofs.Json.NaturalKeys
import Gradebook.Session
import Mathlib.Data.List.Forall2
import Mathlib.Data.Set.List

namespace Gradebook

/-!
# Roles of a session

Who may grade is decided by one table of roles, which is read from a text, changed by calls,
and written again.  It is always the last word on a lecture that counts: the last call, or else
the last member of the text.

A lecture stands in the text as the key of a member.  What makes the table safe is that such a
key is spelled in one way only, so that no two keys mean one lecture, and that a role is not
left out in silence: a text with any member that states no role is refused.

The table has no order of its own.  What is written is therefore not one value but any listing
of the table, and all of them are read as the same table.
-/

open Json (Document Key Origin)

namespace Role

theorem ofName?_name (role : Role) : ofName? role.name = some role := by
  cases role <;> rfl

theorem name_injective : Function.Injective name := by
  intro first second same
  apply Option.some.inj
  rw [← ofName?_name first, same, ofName?_name]

theorem reader_name (origin : Origin) (role : Role) :
    reader origin (.string (.ok role.name)) = .ok role := by
  cases role <;> cases origin <;> rfl

/-- The role that a document states: its name stands there as a string, or over null. -/
def stated? : Document → Option Role
  | .string content => content.toOption.bind ofName?
  | .object [(key, .null)] _ => key.content.toOption.bind ofName?
  | _ => none

theorem ofName?_of_named {name : String} {role : Role}
    (accepted : Json.named named none name = .ok role) : ofName? name = some role := by
  rw [Json.named, Option.orElse_eq_orElse, Option.orElse_eq_or, Option.or_none] at accepted
  rw [ofName?]
  cases found : named.lookup name with
  | none =>
      rw [found] at accepted
      cases accepted
  | some other =>
      rw [found] at accepted
      cases accepted
      rfl

theorem stated?_object {key : Key} {value : Document} {ending : Json.Ending} {origin : Origin}
    {name : String} {role : Role} (named : key.text = .ok name) (known : ofName? name = some role)
    (unit : Json.unitReader origin value = .ok ()) :
    stated? (.object [(key, value)] ending) = some role := by
  cases value with
  | null => simp only [stated?, Json.content_of_text named, Except.toOption, Option.bind_some, known]
  | bool b | number n | string content | array items ending | object members ending
  | broken fault => exact absurd unit Json.refuse_ne_ok

/-- What is read as a role states it. -/
theorem stated?_of_reader {origin : Origin} {document : Document} {role : Role}
    (accepted : reader origin document = .ok role) : stated? document = some role := by
  cases document with
  | string content =>
      cases content with
      | ok name =>
          have known : Json.named named none name = .ok role := by
            cases origin <;> exact accepted
          exact ofName?_of_named known
      | error flaw => cases origin <;> cases accepted
  | object members ending =>
      cases origin with
      | text levels =>
          rw [reader, Json.nameReader] at accepted
          rcases Outcome.bind_eq_ok.1 accepted with ⟨inner, _, accepted⟩
          cases members with
          | nil =>
              rcases Outcome.bind_eq_ok.1 accepted with ⟨_, _, impossible⟩
              exact absurd impossible Outcome.throw_ne_ok
          | cons member rest =>
              rcases member with ⟨key, value⟩
              simp only [Outcome.bind_eq_ok] at accepted
              rcases accepted with ⟨name, spelled, other, known, _, unit, _, finished, ⟨rfl⟩⟩
              rw [Json.eq_nil_of_finish finished]
              exact stated?_object spelled (ofName?_of_named known) unit
      | value | aside =>
          cases members with
          | nil => cases accepted
          | cons member rest =>
              rcases member with ⟨key, value⟩
              cases rest with
              | nil =>
                  simp only [reader, Json.nameReader, Outcome.bind_eq_ok] at accepted
                  rcases accepted with ⟨name, spelled, other, known, _, unit, ⟨rfl⟩⟩
                  exact stated?_object spelled (ofName?_of_named known) unit
              | cons second more => cases accepted
  | null | bool b | number n | array items ending | broken fault =>
      cases origin with
      | text levels => cases accepted
      | value | aside => exact absurd accepted Json.refuse_ne_ok

end Role

namespace Session

variable {session : Session} {lecture : UInt64} {calls entries : List (UInt64 × Role)}
  {origin : Origin} {document : Document}

/-! ## The last role -/

/-- The role in the last entry for a lecture. -/
def lastRole? (entries : List (UInt64 × Role)) (lecture : UInt64) : Option Role :=
  (entries.filter fun entry => entry.1 = lecture).getLast?.map Prod.snd

theorem lookup_eq_find? (entries : List (UInt64 × Role)) (lecture : UInt64) :
    entries.lookup lecture = (entries.find? fun entry => entry.1 = lecture).map Prod.snd := by
  induction entries with
  | nil => rfl
  | cons entry rest inductionHypothesis =>
      rcases entry with ⟨other, role⟩
      by_cases same : lecture = other
      · subst same
        simp only [List.lookup_cons_self, List.find?_cons, decide_true, Option.map_some]
      · have differs : (lecture == other) = false := beq_false_of_ne same
        simp only [List.lookup_cons, differs, List.find?_cons, Ne.symm same, decide_false,
          inductionHypothesis]

theorem getLast?_filter {α : Type} (keep : α → Bool) (items : List α) :
    (items.filter keep).getLast? = items.reverse.find? keep := by
  rw [List.getLast?_eq_head?_reverse, ← List.filter_reverse, List.head?_filter]

theorem lookup_reverse (entries : List (UInt64 × Role)) (lecture : UInt64) :
    entries.reverse.lookup lecture = lastRole? entries lecture := by
  rw [lastRole?, getLast?_filter, lookup_eq_find?]

/-! ## Calls -/

/-- Give the user roles, one after the other. -/
def withRoles (session : Session) (calls : List (UInt64 × Role)) : Session :=
  calls.foldl (fun session call => session.withRole call.1 call.2) session

theorem roles_withRoles (session : Session) (calls : List (UInt64 × Role)) :
    (session.withRoles calls).roles = calls.reverse ++ session.roles := by
  induction calls generalizing session with
  | nil => rfl
  | cons call rest inductionHypothesis =>
      have later := inductionHypothesis (session.withRole call.1 call.2)
      rw [List.reverse_cons, List.append_assoc]
      exact later

theorem username_withRoles (session : Session) (calls : List (UInt64 × Role)) :
    (session.withRoles calls).username = session.username := by
  induction calls generalizing session with
  | nil => rfl
  | cons call rest inductionHypothesis => exact inductionHypothesis (session.withRole call.1 call.2)

/-- The last call for a lecture counts, and where there is none, nothing has changed. -/
theorem role?_withRoles (session : Session) (calls : List (UInt64 × Role)) (lecture : UInt64) :
    (session.withRoles calls).role? lecture =
      (lastRole? calls lecture).or (session.role? lecture) := by
  rw [role?, roles_withRoles, List.lookup_append, lookup_reverse, role?]

theorem canGrade_iff : session.canGrade lecture = true ↔
    session.role? lecture = some .tutor ∨ session.role? lecture = some .instructor := by
  unfold canGrade
  cases session.role? lecture with
  | none => simp only [Bool.false_eq_true, reduceCtorEq, or_self]
  | some role => cases role <;> simp [Role.canGrade]

/-! ## What a text states -/

/-- The values that stand for the roles in the document of a session. -/
def rolesValues : Document → List Document
  | .object members _ =>
    (members.filter fun member => member.1.content.toOption = some "roles").map Prod.snd
  | .array items _ => (items.drop 1).take 1
  | _ => []

/-- The members of an object. -/
def objectMembers : Document → List (Key × Document)
  | .object members _ => members
  | _ => []

/-- The members of the roles, in the order in which they stand. -/
def roleMembers (document : Document) : List (Key × Document) :=
  (rolesValues document).flatMap objectMembers

/-- The role that the last member for a lecture states. -/
def statedRole? (document : Document) (lecture : UInt64) : Option Role :=
  ((roleMembers document).filter fun member =>
    member.1.spelling = Nat.toDigits 10 lecture.toNat).getLast?.bind fun member =>
      Role.stated? member.2

/-- Whether a member states an entry: its key is spelled as the lecture is written, and its
value states the role. -/
def States (member : Key × Document) (entry : UInt64 × Role) : Prop :=
  member.1.spelling = Nat.toDigits 10 entry.1.toNat ∧ Role.stated? member.2 = some entry.2

theorem toDigits_inj {first second : UInt64}
    (same : Nat.toDigits 10 first.toNat = Nat.toDigits 10 second.toNat) : first = second := by
  apply UInt64.toNat_inj.1
  rw [← Decimal.natural_toDigits first.toNat, same, Decimal.natural_toDigits]

theorem find?_states {members : List (Key × Document)}
    (states : List.Forall₂ States members entries) (lecture : UInt64) :
    (members.find? fun member => member.1.spelling = Nat.toDigits 10 lecture.toNat).bind
      (fun member => Role.stated? member.2) = entries.lookup lecture := by
  induction states with
  | nil => rfl
  | @cons member entry members entries first _ inductionHypothesis =>
      rcases entry with ⟨other, role⟩
      rcases first with ⟨spelled, stated⟩
      by_cases same : lecture = other
      · subst same
        simp only [List.find?_cons, spelled, decide_true, Option.bind_some, stated,
          List.lookup_cons_self]
      · have differs : (lecture == other) = false := beq_false_of_ne same
        have otherwise : member.1.spelling ≠ Nat.toDigits 10 lecture.toNat := by
          rw [spelled]
          exact fun equal => same (toDigits_inj equal).symm
        simp only [List.find?_cons, otherwise, decide_false, List.lookup_cons, differs,
          inductionHypothesis]

/-- Where the members state entries, the last entry for a lecture has the role that the last
member states. -/
theorem statedRole?_eq (states : List.Forall₂ States (roleMembers document) entries)
    (lecture : UInt64) : statedRole? document lecture = entries.reverse.lookup lecture := by
  rw [statedRole?, getLast?_filter]
  exact find?_states (List.forall₂_reverse_iff.2 states) lecture

/-! ## What is read -/

/-- Whether a value is read as a list of roles. -/
def ReadsRoles (origin : Origin) (value : Document) (entries : List (UInt64 × Role)) : Prop :=
  Json.naturalMapReader Role.reader origin value = .ok entries

theorem states_of_readsRoles {value : Document} (accepted : ReadsRoles origin value entries) :
    List.Forall₂ States (objectMembers value) entries := by
  rcases Json.exists_of_naturalMapReader accepted with ⟨inner, members, ending, rfl, matched⟩
  exact matched.imp fun member entry read => ⟨read.1, Role.stated?_of_reader read.2⟩

theorem rolesValues_cons {key : Key} {value : Document} {rest : List (Key × Document)}
    {ending : Json.Ending} {name : String} (named : key.text = .ok name) :
    rolesValues (.object ((key, value) :: rest) ending) =
      if name = "roles" then value :: rolesValues (.object rest ending)
      else rolesValues (.object rest ending) := by
  have content : key.content.toOption = some name := by
    rw [Json.content_of_text named]
    rfl
  simp only [rolesValues, List.filter_cons, content, Option.some.injEq, decide_eq_true_eq]
  split_ifs
  · rfl
  · rfl

/-- The roles are those that were read before and those of the fields that follow. -/
theorem roles_of_foldMembers {ending : Json.Ending} {members : List (Key × Document)}
    {fields final : Fields}
    (folded : Json.foldMembers (Fields.read origin) ending fields members = .ok final) :
    ∃ later, List.Forall₂ (ReadsRoles origin) (rolesValues (.object members ending)) later ∧
      final.roles.toList = fields.roles.toList ++ later := by
  induction members generalizing fields with
  | nil =>
      simp only [Json.foldMembers, Outcome.bind_eq_ok, Outcome.pure_eq_ok] at folded
      rcases folded with ⟨_, _, rfl⟩
      exact ⟨[], .nil, (List.append_nil _).symm⟩
  | cons member rest inductionHypothesis =>
      rcases member with ⟨key, value⟩
      simp only [Json.foldMembers, Outcome.bind_eq_ok] at folded
      rcases folded with ⟨name, named, next, stepped, foldedRest⟩
      rcases inductionHypothesis foldedRest with ⟨later, matched, all⟩
      rw [rolesValues_cons named]
      rw [Fields.read.eq_def] at stepped
      split at stepped
      · -- the name of the user
        rcases Outcome.bind_eq_ok.1 stepped with ⟨_, _, ⟨rfl⟩⟩
        exact ⟨later, matched, all⟩
      · -- the roles, which have not been read before
        rcases Outcome.bind_eq_ok.1 stepped with ⟨slot, stored, ⟨rfl⟩⟩
        rcases Json.once_eq_ok_iff.1 stored with ⟨unread, roles, accepted, rfl⟩
        refine ⟨roles :: later, .cons accepted matched, ?_⟩
        rw [all, unread]
        rfl
      · -- a field that is unknown
        next other =>
        rcases Outcome.bind_eq_ok.1 stepped with ⟨_, _, ⟨rfl⟩⟩
        rw [if_neg other]
        exact ⟨later, matched, all⟩

theorem getD_nil_eq_flatten {α : Type} (items : Option (List α)) :
    items.getD [] = items.toList.flatten := by
  cases items with
  | none => rfl
  | some items => exact (List.append_nil items).symm

/-- A list of roles is read for every value that stands for the roles. -/
theorem roles_of_reader (accepted : reader origin document = .ok session) :
    ∃ inner later, List.Forall₂ (ReadsRoles inner) (rolesValues document) later ∧
      session.roles = later.flatten.reverse := by
  cases document with
  | object members ending =>
      simp only [reader, Json.recordReader, Fields.toSession, Outcome.bind_eq_ok,
        Outcome.pure_eq_ok] at accepted
      rcases accepted with ⟨inner, _, fields, folded, username, _, rfl⟩
      rcases roles_of_foldMembers folded with ⟨later, matched, all⟩
      refine ⟨inner, later, matched, ?_⟩
      rw [getD_nil_eq_flatten, all]
      rfl
  | array items ending =>
      simp only [reader, Json.recordReader, ofElements, Outcome.bind_eq_ok,
        Outcome.pure_eq_ok] at accepted
      rcases accepted with ⟨inner, _, ⟨username, between⟩, first, ⟨roles, after⟩, second, _, _, rfl⟩
      rcases Json.nextRequired_eq_ok_iff.1 first with ⟨item, rest, rfl, _, rfl⟩
      rcases Json.next_eq_ok_iff.1 second with ⟨none, _, rfl, _⟩ |
        ⟨value, others, entries, found, read, rfl, _⟩
      · dsimp only at none
        subst none
        exact ⟨inner, [], .nil, rfl⟩
      · dsimp only at found
        subst found
        exact ⟨inner, [entries], .cons read .nil, by rw [getD_nil_eq_flatten]; rfl⟩
  | null | bool b | number n | string content | broken fault =>
      exact absurd accepted Json.refuse_ne_ok

/-- All members of the roles state entries, and these are the roles that are read. -/
theorem exists_entries_of_ofText {text : String} (accepted : ofText text = .ok session) :
    ∃ entries, List.Forall₂ States (roleMembers (Json.parse text).document) entries ∧
      session.roles = entries.reverse := by
  rcases roles_of_reader (Json.readText_eq_ok_iff.1 accepted).1 with ⟨inner, later, matched, roles⟩
  refine ⟨later.flatten, ?_, roles⟩
  have each : List.Forall₂ (List.Forall₂ States)
      ((rolesValues (Json.parse text).document).map objectMembers) later :=
    List.forall₂_map_left_iff.2 (matched.imp fun _ _ => states_of_readsRoles)
  exact List.rel_flatten each

/-! ## What is written -/

/-- Whether a list states all roles of a session, each of them once. -/
structure Lists (session : Session) (entries : List (UInt64 × Role)) : Prop where
  once : (entries.map Prod.fst).Nodup
  states : ∀ lecture role, (lecture, role) ∈ entries ↔ session.role? lecture = some role

/-- The member that is written for an entry. -/
def entryMember (entry : UInt64 × Role) : String × Json :=
  (toString entry.1.toNat, .string entry.2.name)

/-- Whether a value is the object of a session with its roles in the order of a list; the two
fields may stand in any order. -/
def WrittenBy (session : Session) (entries : List (UInt64 × Role)) (value : Json) : Prop :=
  value = .object [("username", .string session.username),
      ("roles", .object (entries.map entryMember))] ∨
    value = .object [("roles", .object (entries.map entryMember)),
      ("username", .string session.username)]

/-- Whether a value is the object of a session, in whatever order. -/
def IsWrittenAs (session : Session) (value : Json) : Prop :=
  ∃ entries, session.Lists entries ∧ session.WrittenBy entries value

theorem decimal_inj {first second : UInt64}
    (same : toString first.toNat = toString second.toNat) : first = second := by
  apply Option.some.inj
  rw [← Decimal.natural64?_toString first, same, Decimal.natural64?_toString]

theorem entryMember_injective : Function.Injective entryMember := by
  rintro ⟨first, firstRole⟩ ⟨second, secondRole⟩ same
  simp only [entryMember, Prod.mk.injEq, Json.string.injEq] at same
  rw [decimal_inj same.1, Role.name_injective same.2]

/-- What is looked for under the number of a lecture is what is looked for under the lecture. -/
theorem lookup_map_entryMember (entries : List (UInt64 × Role)) (lecture : UInt64) :
    (entries.map entryMember).lookup (toString lecture.toNat) =
      (entries.lookup lecture).map fun role => .string role.name := by
  induction entries with
  | nil => rfl
  | cons entry rest inductionHypothesis =>
      rcases entry with ⟨other, role⟩
      by_cases same : lecture = other
      · subst same
        simp only [List.map_cons, entryMember, List.lookup_cons_self, Option.map_some]
      · have names : toString lecture.toNat ≠ toString other.toNat := fun equal =>
          same (decimal_inj equal)
        simp only [List.map_cons, entryMember, List.lookup_cons, beq_false_of_ne names,
          beq_false_of_ne same]
        exact inductionHypothesis

/-- The dictionary that the roles are written as. -/
def rolesDict (session : Session) : Dict Json :=
  .ofList (session.roles.reverse.map entryMember)

theorem mem_rolesDict {role : Role} :
    entryMember (lecture, role) ∈ session.rolesDict.entries ↔
      session.role? lecture = some role := by
  have found : session.rolesDict.get? (toString lecture.toNat) =
      (session.role? lecture).map fun role => .string role.name := by
    rw [rolesDict, Dict.get?_ofList, ← List.map_reverse, List.reverse_reverse,
      lookup_map_entryMember]
    rfl
  rw [entryMember, ← Dict.get?_eq_some_iff, found, Option.map_eq_some_iff]
  constructor
  · rintro ⟨other, known, same⟩
    rw [known, Role.name_injective (Json.string.inj same)]
  · intro known
    exact ⟨role, known, rfl⟩

/-- The session itself lists its roles in the order of their keys. -/
theorem isWrittenAs_toJson (session : Session) : session.IsWrittenAs session.toJson := by
  have each : session.rolesDict.entries ∈ Set.range (List.map entryMember) := by
    rw [Set.range_list_map]
    intro member listed
    rcases List.mem_map.1 (Dict.mem_of_mem_ofList listed) with ⟨entry, _, same⟩
    exact ⟨entry, same⟩
  rcases each with ⟨entries, same⟩
  have written : session.toJson = .object [("roles", .object (entries.map entryMember)),
      ("username", .string session.username)] := by
    rw [same]
    rfl
  refine ⟨entries, ⟨?_, ?_⟩, .inr written⟩
  · have keys := Dict.nodup_of_ascending session.rolesDict.ascending
    rw [← same, List.map_map] at keys
    apply List.Nodup.of_map fun lecture : UInt64 => toString lecture.toNat
    rwa [List.map_map]
  · intro lecture role
    rw [← mem_rolesDict, ← same, List.mem_map_of_injective entryMember_injective]

/-! ## What is read again -/

theorem lookup_of_lists (lists : session.Lists entries) (lecture : UInt64) :
    entries.reverse.lookup lecture = session.role? lecture := by
  have reversed : (entries.reverse.map Prod.fst).Nodup := by
    rw [List.map_reverse]
    exact List.nodup_reverse.2 lists.once
  ext role
  rw [Dict.lookup_eq_some_iff reversed, List.mem_reverse, lists.states]

/-- Entries are read from their members, if a number is spelled as it is written. -/
theorem readsRoles_entryMembers {spell : String → List Char}
    (decimal : ∀ n : UInt64, spell (toString n.toNat) = Nat.toDigits 10 n.toNat)
    (allows : origin.Allows 1) (entries : List (UInt64 × Role)) :
    ReadsRoles origin ((Json.object (entries.map entryMember)).spelled spell) entries := by
  rcases allows.enter with ⟨inner, entered, _⟩
  rw [Json.spelled]
  apply Json.naturalMapReader_object entered
  induction entries with
  | nil =>
      rw [List.map_nil, Json.spelledMembers]
      exact .nil
  | cons entry rest inductionHypothesis =>
      rw [List.map_cons, entryMember, Json.spelledMembers, Json.spelled]
      exact .cons ⟨decimal entry.1, Role.reader_name inner entry.2⟩ inductionHypothesis

/-- Whatever order a session is written in, it is read with its user and its roles. -/
theorem reader_spelled {spell : String → List Char}
    (decimal : ∀ n : UInt64, spell (toString n.toNat) = Nat.toDigits 10 n.toNat)
    (allows : origin.Allows 2) {entries : List (UInt64 × Role)} {value : Json}
    (written : session.WrittenBy entries value) :
    reader origin (value.spelled spell) = .ok ⟨session.username, entries.reverse⟩ := by
  rcases allows.enter with ⟨inner, entered, allowsInner⟩
  have roles : Json.naturalMapReader Role.reader inner
      ((Json.object (entries.map entryMember)).spelled spell) = .ok entries :=
    readsRoles_entryMembers decimal allowsInner entries
  rcases written with rfl | rfl
  all_goals
    simp only [Json.spelled, Json.spelledMembers, reader, Json.recordReader, entered,
      Outcome.ok_bind, Json.foldMembers, Json.Key.text, Fields.read] at roles ⊢
    rw [roles]
    rfl

theorem steady_of_writtenBy {value : Json} (written : session.WrittenBy entries value) :
    value.Steady := by
  have members : Json.SteadyMembers (entries.map entryMember) := by
    apply Json.steadyMembers_iff.2
    intro member listed
    rcases List.mem_map.1 listed with ⟨entry, _, rfl⟩
    simp only [entryMember, Json.Steady]
  rcases written with rfl | rfl
  all_goals simp only [Json.Steady, Json.SteadyMembers, members, and_self]

/-- A session that is written in any order and read again has the user and the roles that it
had, whether it is written without blanks, over several lines, or not as a text at all. -/
theorem reread_of_isWrittenAs {value : Json} (written : session.IsWrittenAs value) :
    ∃ again, ofText value.compress = .ok again ∧ ofText value.pretty = .ok again ∧
      Json.readValue reader value = .ok again ∧ again.username = session.username ∧
        ∀ lecture, again.role? lecture = session.role? lecture := by
  rcases written with ⟨entries, lists, writtenBy⟩
  have allows : (Origin.text Json.maximalDepth).Allows 2 := by
    show 2 ≤ Json.maximalDepth
    decide
  have text := reader_spelled Json.spellWritten_decimal allows writtenBy
  rw [← Json.written_of_steady value (steady_of_writtenBy writtenBy)] at text
  have decimal : ∀ n : UInt64, (toString n.toNat).toList = Nat.toDigits 10 n.toNat :=
    fun n => Nat.toList_repr
  have unbounded : Origin.value.Allows 2 := trivial
  have plain := reader_spelled decimal unbounded writtenBy
  rw [← Json.toDocument_eq_spelled] at plain
  refine ⟨⟨session.username, entries.reverse⟩, ?_, ?_, plain, rfl, lookup_of_lists lists⟩
  · exact (Json.readText_compress reader value).trans text
  · exact (Json.readText_pretty reader value).trans text

/-! ## Permissions -/

/-- The permissions of a session that is read from a text and given further roles by calls.
Every member of the roles states a role for a lecture, under the key that the lecture is written
as.  For each lecture the last call counts, or else the last member, and nothing else; the user
may grade where this makes a tutor or an instructor.  The session that is written, in whatever
order, is read again with the same user and the same roles. -/
theorem permissions_of_text {text : String} (accepted : ofText text = .ok session)
    (calls : List (UInt64 × Role)) :
    (∃ entries, List.Forall₂ States (roleMembers (Json.parse text).document) entries) ∧
    (∀ lecture, (session.withRoles calls).role? lecture =
      (lastRole? calls lecture).or (statedRole? (Json.parse text).document lecture)) ∧
    (∀ lecture, (session.withRoles calls).canGrade lecture = true ↔
      (session.withRoles calls).role? lecture = some .tutor ∨
        (session.withRoles calls).role? lecture = some .instructor) ∧
    (session.withRoles calls).IsWrittenAs (session.withRoles calls).toJson ∧
    ∀ value, (session.withRoles calls).IsWrittenAs value →
      ∃ again, ofText value.compress = .ok again ∧ ofText value.pretty = .ok again ∧
        Json.readValue reader value = .ok again ∧ again.username = session.username ∧
          ∀ lecture, again.role? lecture = (session.withRoles calls).role? lecture := by
  rcases exists_entries_of_ofText accepted with ⟨entries, states, roles⟩
  refine ⟨⟨entries, states⟩, ?_, fun lecture => canGrade_iff, isWrittenAs_toJson _, ?_⟩
  · intro lecture
    rw [role?_withRoles, statedRole?_eq states, role?, roles]
  · intro value written
    rw [← username_withRoles session calls]
    exact reread_of_isWrittenAs written

/-- A session in which a lecture stands twice and a role stands over null. -/
def repeated : String :=
  "\x7b\"username\":\"ada\",\"roles\":\x7b\"7\":\"student\",\"18446744073709551615\":\"tutor\",\"7\":\"instructor\",\"0\":\x7b\"student\":null\x7d\x7d\x7d"

/-- Calls of which the last one overrides the first. -/
def overriding : List (UInt64 × Role) :=
  [(3, .tutor), (0, .instructor), (3, .student)]

theorem permissions_repeated : ∃ session again, ofText repeated = .ok session ∧
    (session.withRoles overriding).role? 7 = some .instructor ∧
    (session.withRoles overriding).role? 0 = some .instructor ∧
    (session.withRoles overriding).role? 3 = some .student ∧
    (session.withRoles overriding).role? 70 = none ∧
    (session.withRoles overriding).canGrade 18446744073709551615 = true ∧
    ofText (session.withRoles overriding).toJson.compress = .ok again ∧
    again.role? 18446744073709551615 = some .tutor := by
  have readable : (ofText repeated).isOk = true := by decide +kernel
  rcases Outcome.exists_of_isOk readable with ⟨session, accepted⟩
  rcases permissions_of_text accepted overriding with ⟨_, roles, grades, written, rereads⟩
  rcases rereads _ written with ⟨again, read, _, _, _, same⟩
  have greatest : (session.withRoles overriding).role? 18446744073709551615 = some .tutor := by
    rw [roles]
    decide +kernel
  refine ⟨session, again, accepted, ?_, ?_, ?_, ?_, (grades _).2 (.inl greatest), read, ?_⟩
  · rw [roles]
    decide +kernel
  · rw [roles]
    decide +kernel
  · rw [roles]
    decide +kernel
  · rw [roles]
    decide +kernel
  · rw [same, greatest]

end Session

end Gradebook
