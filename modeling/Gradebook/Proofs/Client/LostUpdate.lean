import Gradebook.Proofs.Client.Concurrency
import Gradebook.Proofs.Service.History

namespace Gradebook

/-!
# Updates that are lost to a save

A save marks a submission by fetching its record and sending all of it back.  What
others replace between these two requests is therefore lost, and nothing else is: the
record has, but for its status, the fields that the others gave it last, not counting
what they wrote while the save held a copy.
-/

namespace Dialogue

variable {α : Type}

theorem length_of_within {bound : Nat} {dialogue left : Dialogue α} {said : List (Call × Reply)}
    (within : dialogue.Within bound) (leads : dialogue.after? said = some left) :
    said.length ≤ bound := by
  induction within generalizing said with
  | done bound result =>
      rcases after?_done leads with ⟨rfl, _⟩
      exact Nat.zero_le bound
  | ask later inductionHypothesis =>
      rcases after?_ask leads with ⟨rfl, _⟩ | ⟨reply, rest, rfl, further⟩
      · exact Nat.zero_le _
      · exact Nat.succ_le_succ (inductionHypothesis reply further)

end Dialogue

/-- Two records have the same fields but for the status. -/
def Submission.SameBeside (left right : Submission) : Prop :=
  left.id = right.id ∧ left.extra = right.extra

namespace Interleaving

variable {ι : Type} [DecidableEq ι] {address : String} {place : Place} {saver : ι}

/-! ## What the others wrote -/

/-- What the others have put in a place last, or what stood there first. -/
def foreign (address : String) (place : Place) (saver : ι) (first : Part)
    (log : List (Exchange ι)) : Part :=
  ((log.filter (·.speaker ≠ saver)).filterMap (·.written? address place)).getLast?.getD first

/-- The one who saves has put nothing in a place. -/
def Silent (address : String) (place : Place) (saver : ι) (log : List (Exchange ι)) : Prop :=
  ∀ exchange ∈ log, exchange.speaker = saver → exchange.written? address place = none

theorem foreign_append (first : Part) (earlier later : List (Exchange ι)) :
    foreign address place saver first (earlier ++ later) =
      foreign address place saver (foreign address place saver first earlier) later := by
  simp only [foreign, List.filter_append, List.filterMap_append, List.getLast?_append]
  cases ((later.filter (·.speaker ≠ saver)).filterMap (·.written? address place)).getLast? with
  | none => rfl
  | some part => rfl

/-- What the others leave does not depend on what stood there first, or is just that. -/
theorem foreign_cases (address : String) (place : Place) (saver : ι) (log : List (Exchange ι)) :
    (∃ part, ∀ first, foreign address place saver first log = part) ∨
      ∀ first, foreign address place saver first log = first := by
  unfold foreign
  cases ((log.filter (·.speaker ≠ saver)).filterMap (·.written? address place)).getLast? with
  | none => exact .inr fun _ => rfl
  | some part => exact .inl ⟨part, fun _ => rfl⟩

theorem filterMap_of_silent {log : List (Exchange ι)} (silent : Silent address place saver log) :
    (log.filter (·.speaker ≠ saver)).filterMap (·.written? address place) =
      log.filterMap (·.written? address place) := by
  rw [List.filterMap_filter]
  apply List.filterMap_congr
  intro exchange listed
  by_cases own : exchange.speaker = saver
  · rw [silent exchange listed own, ite_self]
  · simp only [own, ne_eq, not_false_eq_true, decide_true, if_true]

/-- Where only the others write, what they wrote last stands. -/
theorem part?_of_silent (service : Service) {log : List (Exchange ι)}
    (silent : Silent address place saver log) :
    (service.afterLog address log).store.part? place =
      (service.store.part? place).map fun first => foreign address place saver first log := by
  rw [Service.part?_afterLog]
  simp only [foreign, filterMap_of_silent silent]

omit [DecidableEq ι] in
/-- What has just been put in a place stands there. -/
theorem part?_afterLog_concat {service : Service} {log : List (Exchange ι)}
    {exchange : Exchange ι} {first part : Part} (stood : service.store.part? place = some first)
    (written : exchange.written? address place = some part) :
    (service.afterLog address (log ++ [exchange])).store.part? place = some part := by
  rw [Service.part?_afterLog, stood, List.filterMap_append, List.filterMap_cons, written]
  simp only [List.filterMap_nil, List.getLast?_concat, Option.map_some, Option.getD_some]

omit [DecidableEq ι] in
theorem afterLog_append (service : Service) (earlier later : List (Exchange ι)) :
    service.afterLog address (earlier ++ later) =
      (service.afterLog address earlier).afterLog address later := by
  simp only [Service.afterLog, List.filterMap_append, Store.replaceAll, List.foldl_append]

theorem silent_of_said {log : List (Exchange ι)} (unspoken : said log saver = []) :
    Silent address place saver log := by
  intro exchange listed own
  have spoken := mem_said listed
  rw [own, unspoken] at spoken
  cases spoken

/-! ## What counts -/

/-- The exchanges that count for a record: all, as long as the save has not replaced it,
and otherwise those before the save fetched it and those after the save replaced it. -/
inductive Counted (address : String) (sync : Sync) (key : SubmissionKey) (saver : ι) :
    List (Exchange ι) → List (Exchange ι) → Prop
  | all {log : List (Exchange ι)} (silent : Silent address ⟨key, .record⟩ saver log) :
      Counted address sync key saver log log
  | around {before between later : List (Exchange ι)} {answer reply : Reply} {call : Call}
      {record : Submission}
      (replaced : (⟨saver, call, reply⟩ : Exchange ι).written? address ⟨key, .record⟩ =
        some (.record record)) :
      Counted address sync key saver
        (before ++ ⟨saver, sync.fetchCall key, answer⟩ :: between ++ ⟨saver, call, reply⟩ :: later)
        (before ++ later)

section Save

variable {network : Network} {dialogues : ι → Dialogue (Except SyncError Unit)} {sync : Sync}
  {key : SubmissionKey} {ledger : Ledger} {old : StoredSubmission}

omit [DecidableEq ι] in
/-- What stands in the store at any time of a log is sound. -/
theorem Logged.sound {held : Interleaving ι (Except SyncError Unit) Network}
    (logged : Logged address network held) (sound : network.service.store.Sound)
    {log : List (Exchange ι)} (listed : log <+: held.log) :
    (network.service.afterLog address log).store.Sound := by
  apply Store.replaceAll_induction _ (fun _ _ fits sound => sound.replace fits) sound
  intro replacement member
  rcases List.mem_filterMap.1 member with ⟨exchange, here, reported⟩
  rcases List.append_of_mem here with ⟨before, behind, split⟩
  have answers := logged.answers before exchange ((prefix_of_split split).trans listed)
  exact (answers.fits reported).1

omit [DecidableEq ι] in
/-- What comes back of a durable record that stood in the store has its fields. -/
theorem Logged.sameBeside {held : Interleaving ι (Except SyncError Unit) Network}
    (logged : Logged address network held) (sound : network.service.store.Sound)
    {log : List (Exchange ι)} (listed : log <+: held.log) {stood record : Submission}
    (stands : (network.service.afterLog address log).store.part? ⟨key, .record⟩ =
      some (.record stood))
    (returns : stood.Returns record) (durable : stood.toJson.Durable) :
    record.SameBeside stood := by
  rcases Option.map_eq_some_iff.1 stands with ⟨stored, found, same⟩
  have canonical := (logged.sound sound listed).canonical key stored found
  rw [Part.record.inj same] at canonical
  rw [returns.eq_graded canonical durable]
  exact ⟨rfl, rfl⟩

variable (listens : network.address = some address) (failing : Network.Failing network.faults)
  (knows : sync.client.Knows address) (saves : dialogues saver = sync.save key ledger)

include listens failing knows saves

omit saves in
/-- Before a save has fetched the record, it has put nothing in its place. -/
theorem silent_of_begun {schedule : List ι} {log : List (Exchange ι)} {first : Reply}
    (begun : said log saver = [(sync.propertiesCall key ledger, first)])
    (listed : log <+: (turns Network.exchange (start network dialogues) schedule).log) :
    Silent address ⟨key, .record⟩ saver log := by
  rintro ⟨speaker, call, reply⟩ earlier rfl
  have spoken := mem_said earlier
  rw [begun, List.mem_singleton, Prod.mk.injEq] at spoken
  rcases spoken with ⟨asked, _⟩
  rcases List.append_of_mem earlier with ⟨front, back, inside⟩
  have answers := (logged_turns listens failing dialogues schedule).answers front _
    ((prefix_of_split inside).trans listed)
  apply Option.eq_none_iff_forall_not_mem.2
  intro part written
  rcases Exchange.written?_eq_some_iff.1 written with ⟨replacement, reported, here, _⟩
  dsimp only at asked answers
  rw [asked] at answers
  unfold Exchange.replaced? at reported
  dsimp only at reported
  rw [asked] at reported
  rcases answers.properties knows reported with ⟨properties, rfl, _⟩
  cases congrArg Place.aspect here

/-- A save that has replaced the record has done so once, with its last call, by what came
back of the record that it had fetched. -/
theorem exists_around_of_replaced {schedule : List ι}
    (replaces : ¬ Silent address ⟨key, .record⟩ saver
      (turns Network.exchange (start network dialogues) schedule).log) :
    ∃ before answer between call reply later stood record,
      (turns Network.exchange (start network dialogues) schedule).log =
        before ++ ⟨saver, sync.fetchCall key, answer⟩ :: between ++ ⟨saver, call, reply⟩ :: later ∧
      (⟨saver, call, reply⟩ : Exchange ι).written? address ⟨key, .record⟩ =
        some (.record record) ∧
      Silent address ⟨key, .record⟩ saver before ∧ Silent address ⟨key, .record⟩ saver later ∧
      (network.service.afterLog address before).store.part? ⟨key, .record⟩ =
        some (.record stood) ∧ stood.Returns record := by
  have wrote : ∃ put ∈ (turns Network.exchange (start network dialogues) schedule).log,
      put.speaker = saver ∧ ∃ part, put.written? address ⟨key, .record⟩ = some part := by
    simpa only [Silent, not_forall, exists_prop, ← ne_eq, Option.ne_none_iff_exists'] using replaces
  rcases wrote with ⟨⟨speaker, call, reply⟩, listed, own, part, written⟩
  obtain rfl : saver = speaker := own.symm
  rcases Exchange.written?_eq_some_iff.1 written with ⟨replacement, reported, here, same⟩
  rcases List.append_of_mem listed with ⟨prior, later, split⟩
  have within := Dialogue.length_of_within (Sync.within_save sync key ledger)
    (saves ▸ after?_said Network.exchange network dialogues schedule saver)
  cases writes_of_save listens failing knows saves (prefix_of_split split) reported with
  | properties taken => cases congrArg Place.aspect here
  | @record before between answer stood record fetched begins silentBetween stands returns =>
      rcases begins with ⟨begin, begins⟩
      rw [fetched] at split
      rw [split] at within
      have unspoken : said later saver = [] := by
        rw [said_append, said_append, said_cons_self, said_cons_self, begins] at within
        simp only [List.length_append, List.length_cons, List.length_nil] at within
        exact List.eq_nil_of_length_eq_zero (by omega)
      refine ⟨before, answer, between, call, reply, later, stood, record, split, ?_, ?_,
        silent_of_said unspoken, stands, returns⟩
      · rw [written, ← same]
      · apply silent_of_begun listens failing knows begins
        rw [split, List.append_assoc]
        exact List.prefix_append before _

/-- The record that a save leaves has the fields that the others gave it last, but for the
status, where what they wrote between the save's fetching and replacing does not count
once the save has replaced it. -/
theorem record_among_others (sound : network.service.store.Sound)
    (found : network.service.store.get? key = some old) (schedule : List ι) :
    let held := turns Network.exchange (start network dialogues) schedule
    ∃ stored counted standing, held.state.service.store.get? key = some stored ∧
      Counted address sync key saver held.log counted ∧
      foreign address ⟨key, .record⟩ saver (.record old.submission) counted = .record standing ∧
      (stored.submission = standing ∨ standing.Returns stored.submission) ∧
      (standing.toJson.Durable → stored.submission.SameBeside standing) := by
  intro held
  have logged : Logged address network held := logged_turns listens failing dialogues schedule
  have keys : held.state.service.store.keys = network.service.store.keys := by
    rw [logged.service, Service.keys_afterLog]
  rcases Store.mem_keys_iff.1 (keys ▸ Store.mem_keys_iff.2 ⟨old, found⟩) with ⟨stored, now⟩
  have first : network.service.store.part? ⟨key, .record⟩ = some (.record old.submission) := by
    rw [Store.part?, found]
    rfl
  have final : (network.service.afterLog address held.log).store.part? ⟨key, .record⟩ =
      some (.record stored.submission) := by
    rw [← logged.service, Store.part?, now]
    rfl
  by_cases silent : Silent address ⟨key, .record⟩ saver held.log
  · rw [part?_of_silent _ silent, first] at final
    exact ⟨stored, held.log, stored.submission, now, .all silent, Option.some.inj final, .inl rfl,
      fun _ => ⟨rfl, rfl⟩⟩
  rcases exists_around_of_replaced listens failing knows saves silent with
    ⟨before, answer, between, call, reply, later, stood, record, split, written, silentBefore,
      silentLater, stands, returns⟩
  have sorted := part?_of_silent network.service silentBefore
  rw [stands, first] at sorted
  have fetched : foreign address ⟨key, .record⟩ saver (.record old.submission) before =
      .record stood := (Option.some.inj sorted).symm
  have last : Part.record stored.submission =
      foreign address ⟨key, .record⟩ saver (.record record) later := by
    rw [split, List.append_cons _ _ later, afterLog_append, part?_of_silent _ silentLater,
      part?_afterLog_concat first written] at final
    exact (Option.some.inj final).symm
  have counted : foreign address ⟨key, .record⟩ saver (.record old.submission) (before ++ later) =
      foreign address ⟨key, .record⟩ saver (.record stood) later := by
    rw [foreign_append, fetched]
  refine ⟨stored, before ++ later, ?_⟩
  rw [split, counted]
  rcases foreign_cases address ⟨key, .record⟩ saver later with ⟨part, others⟩ | idle
  · rw [others] at last ⊢
    exact ⟨stored.submission, now, .around written, last.symm, .inl rfl, fun _ => ⟨rfl, rfl⟩⟩
  · rw [idle] at last ⊢
    rw [← Part.record.inj last] at returns
    have earlier : before <+: held.log := by
      rw [split, List.append_assoc]
      exact List.prefix_append before _
    exact ⟨stood, now, .around written, rfl, .inr returns,
      logged.sameBeside sound earlier stands returns⟩

end Save

/-! ## An update that is lost -/

namespace Lost

/-- A record with a score. -/
def record : Submission :=
  (Json.readText Submission.reader
    "\x7b\"id\":3,\"manual_status\":\"not_graded\",\"score\":5\x7d").toOption.getD
      ⟨3, .notGraded, .empty⟩

/-- Somebody saves, and somebody else puts the score into the record. -/
def dialogues : Bool → Dialogue (Except SyncError Unit)
  | true => Drift.sync.save Drift.key .empty
  | false => .ask (Drift.sync.client.call .put Drift.key.submissionPath (some record.toJson))
      fun _ => .done (.ok ())

/-- The score is put into the record between the last two requests of the save. -/
def held : Interleaving Bool (Except SyncError Unit) Network :=
  turns Network.exchange (start Drift.network dialogues) [true, true, false, true]

/-- The score in a record. -/
def score? (submission : Submission) : Option String :=
  (submission.extra.members.get? "score").map Json.compress

/-- The score in a part that is a record. -/
def partScore? : Part → Option String
  | .record submission => score? submission
  | .properties _ => none

end Lost

/-- The others wrote a record with a score last, and the record has no score. -/
theorem record_of_foreign_is_lost : ∃ old stored written,
    Drift.network.service.store.get? Drift.key = some old ∧
    Lost.held.state.service.store.get? Drift.key = some stored ∧
    foreign "a" ⟨Drift.key, .record⟩ true (.record old.submission) Lost.held.log =
      .record written ∧
    ¬ stored.submission.SameBeside written := by
  have known : (Drift.network.service.store.get? Drift.key).isSome = true := by decide +kernel
  rcases Option.isSome_iff_exists.1 known with ⟨old, found⟩
  have computed : ((Lost.held.log.filter (·.speaker ≠ true)).filterMap
        (·.written? "a" ⟨Drift.key, .record⟩)).getLast?.bind Lost.partScore? = some "5" ∧
      (Lost.held.state.service.store.get? Drift.key).map
        (fun stored => Lost.score? stored.submission) = some none := by
    decide +kernel
  rcases computed with ⟨scored, unscored⟩
  have wrote : ∃ written, foreign "a" ⟨Drift.key, .record⟩ true (.record old.submission)
      Lost.held.log = .record written ∧ Lost.score? written = some "5" := by
    rcases Option.bind_eq_some_iff.1 scored with ⟨part, last, score⟩
    cases part with
    | record written => exact ⟨written, congrArg (·.getD (.record old.submission)) last, score⟩
    | properties payload => cases score
  rcases wrote with ⟨written, last, score⟩
  rcases Option.map_eq_some_iff.1 unscored with ⟨stored, now, lacks⟩
  refine ⟨old, stored, written, found, now, last, ?_⟩
  rintro ⟨_, same⟩
  rw [Lost.score?, same] at lacks
  cases lacks.symm.trans score

/-- As long as the save has not replaced the record, the others' record stands. -/
theorem record_among_others_of_lost : ∃ old, Drift.network.service.store.get? Drift.key = some old ∧
    ∃ stored counted standing, Lost.held.state.service.store.get? Drift.key = some stored ∧
      Counted "a" Drift.sync Drift.key true Lost.held.log counted ∧
      foreign "a" ⟨Drift.key, .record⟩ true (.record old.submission) counted = .record standing ∧
      (stored.submission = standing ∨ standing.Returns stored.submission) ∧
      (standing.toJson.Durable → stored.submission.SameBeside standing) := by
  have listens : Drift.network.address = some "a" := by decide +kernel
  have knows : Drift.sync.client.baseUrl = "a" ++ SubmissionKey.mount := by decide +kernel
  have known : (Drift.network.service.store.get? Drift.key).isSome = true := by decide +kernel
  rcases Option.isSome_iff_exists.1 known with ⟨old, found⟩
  have saves : Lost.dialogues true = Drift.sync.save Drift.key .empty := rfl
  exact ⟨old, found, record_among_others listens Drift.connected.failing knows saves Drift.sound found
    [true, true, false, true]⟩

end Interleaving

end Gradebook
