import Gradebook.Grading.Controller
import Gradebook.Proofs.Client.Interleaving
import Mathlib.Logic.Relation

namespace Gradebook

/-!
# Saves among others

A save takes three turns, and others may take theirs between them.
-/

namespace Submission

/-- What becomes of a record when a save fetches it and sends it back. -/
def Returns (stood record : Submission) : Prop :=
  stood.returned? = some record

variable {stood record : Submission}

/-- A record that comes back has been graded. -/
theorem Returns.status (returns : Returns stood record) :
    record.manualStatus = .manuallyGraded := by
  rcases returned?_eq_some_iff.1 returns with ⟨fetched, _, taken⟩
  exact status_of_readText (Service.received_eq_some_iff.1 taken).2

/-- A durable record that comes back has been graded and is otherwise as it was. -/
theorem Returns.eq_graded (canonical : stood.extra.Every Json.Canonical)
    (durable : stood.toJson.Durable) (returns : Returns stood record) : record = stood.graded := by
  rw [Returns, returned?_of_durable canonical durable] at returns
  split_ifs at returns
  exact (Option.some.inj returns).symm

/-- However often a record has come back, it is the first one or has been graded. -/
theorem status_of_returns (returns : Relation.ReflTransGen Returns stood record) :
    record = stood ∨ record.manualStatus = .manuallyGraded := by
  rcases Relation.ReflTransGen.cases_tail returns with same | ⟨middle, _, last⟩
  · exact .inl same
  · exact .inr last.status

/-- However often a durable record has come back, nothing else of it has changed. -/
theorem eq_graded_of_returns (canonical : stood.extra.Every Json.Canonical)
    (durable : stood.toJson.Durable) (returns : Relation.ReflTransGen Returns stood record) :
    record = stood ∨ record = stood.graded := by
  induction returns with
  | refl => exact .inl rfl
  | @tail middle record _ last inductionHypothesis =>
      rcases inductionHypothesis with same | same
      · rw [same] at last
        exact .inr (last.eq_graded canonical durable)
      · rw [same] at last
        have canonicalGraded : stood.graded.extra.Every Json.Canonical := canonical
        have again : record = stood.graded.graded :=
          last.eq_graded canonicalGraded (durable_graded durable)
        exact .inr again

end Submission

/-! ## What a save says -/

namespace Sync

variable {sync : Sync} {key : SubmissionKey} {ledger : Ledger}

/-- How far a save has come that is not done, or has ended well, by what it said and
heard. -/
inductive Stage (sync : Sync) (key : SubmissionKey) (ledger : Ledger) :
    List (Call × Reply) → Dialogue (Except SyncError Unit) → Prop
  | begun {next : Reply → Dialogue (Except SyncError Unit)} :
      Stage sync key ledger [] (.ask (sync.propertiesCall key ledger) next)
  | stored (reply : Reply) {next : Reply → Dialogue (Except SyncError Unit)} :
      Stage sync key ledger [(sync.propertiesCall key ledger, reply)]
        (.ask (sync.fetchCall key) next)
  | fetched (reply : Reply) {answer : Reply} {fetched : Submission}
      (brought : fetchedRecord answer = .ok fetched)
      {next : Reply → Dialogue (Except SyncError Unit)} :
      Stage sync key ledger [(sync.propertiesCall key ledger, reply), (sync.fetchCall key, answer)]
        (.ask (sync.recordCall key fetched) next)
  | marked (reply : Reply) {answer last : Reply} {fetched : Submission} {body : String}
      (brought : fetchedRecord answer = .ok fetched)
      (succeeded : Client.successBody last = .ok body) :
      Stage sync key ledger [(sync.propertiesCall key ledger, reply), (sync.fetchCall key, answer),
        (sync.recordCall key fetched, last)] (.done (.ok ()))
  | failed (said : List (Call × Reply)) (error : SyncError) :
      Stage sync key ledger said (.done (.error error))

/-- A save is always at one of its stages. -/
theorem stage_save {said : List (Call × Reply)} {left : Dialogue (Except SyncError Unit)}
    (leads : (sync.save key ledger).after? said = some left) : Stage sync key ledger said left := by
  cases permitted : sync.authorize key with
  | error error =>
      have refused : sync.save key ledger = .done (.error error) := by
        rw [save_eq, permitted]
      rw [refused] at leads
      rcases Dialogue.after?_done leads with ⟨rfl, rfl⟩
      exact .failed [] error
  | ok _ =>
      rw [save_of_permitted permitted] at leads
      rcases Dialogue.after?_ask leads with ⟨rfl, rfl⟩ | ⟨stored, afterStored, rfl, second⟩
      · exact .begun
      cases accepted : Client.successBody stored with
      | error error =>
          rw [accepted] at second
          rcases Dialogue.after?_done second with ⟨rfl, rfl⟩
          exact .failed _ (.fetch error)
      | ok body =>
          rw [accepted] at second
          rcases Dialogue.after?_ask second with ⟨rfl, rfl⟩ | ⟨answer, afterAnswer, rfl, third⟩
          · exact .stored stored
          cases brought : fetchedRecord answer with
          | error error =>
              rw [brought] at third
              rcases Dialogue.after?_done third with ⟨rfl, rfl⟩
              exact .failed _ (.statusUpdate error)
          | ok fetched =>
              rw [brought] at third
              rcases Dialogue.after?_ask third with ⟨rfl, rfl⟩ | ⟨last, afterLast, rfl, done⟩
              · exact .fetched stored brought
              rcases Dialogue.after?_done done with ⟨rfl, rfl⟩
              cases succeeded : Client.successBody last with
              | error error => exact .failed _ (.statusUpdate error)
              | ok body => exact .marked stored brought succeeded

end Sync

/-! ## What a save writes -/

namespace Interleaving

variable {ι : Type} [DecidableEq ι] {address : String} {network : Network}
  {dialogues : ι → Dialogue (Except SyncError Unit)} {schedule : List ι} {sync : Sync}
  {key : SubmissionKey} {ledger : Ledger}

/-- Whoever saves was at a stage of the save when they asked something. -/
theorem exists_stage {before : List (Exchange ι)} {exchange : Exchange ι}
    (saves : dialogues exchange.speaker = sync.save key ledger)
    (listed : before ++ [exchange] <+:
      (turns Network.exchange (start network dialogues) schedule).log) :
    ∃ next, sync.Stage key ledger (said before exchange.speaker) (.ask exchange.call next) := by
  rcases listed with ⟨behind, split⟩
  have leads := after?_said Network.exchange network dialogues schedule exchange.speaker
  rw [← split, said_append, said_append, said_cons_self, List.append_assoc, saves] at leads
  rcases Dialogue.exists_ask_of_after? leads with ⟨next, asks⟩
  exact ⟨next, Sync.stage_save asks⟩

/-- What a save may replace when so much has been exchanged: the properties, by those
that were received, or the record, by what came back of the one that stood there when
the save fetched it. -/
inductive Writes (address : String) (service : Service) (sync : Sync) (key : SubmissionKey)
    (ledger : Ledger) (speaker : ι) (before : List (Exchange ι)) : Replacement → Prop
  | properties {properties : Json}
      (taken : Service.received Json.keep ledger.toJson = some properties) :
      Writes address service sync key ledger speaker before ⟨key, .properties properties⟩
  | record {earlier between : List (Exchange ι)} {reply : Reply} {stood record : Submission}
      (split : before = earlier ++ ⟨speaker, sync.fetchCall key, reply⟩ :: between)
      (begins : ∃ first, said earlier speaker = [(sync.propertiesCall key ledger, first)])
      (silent : said between speaker = [])
      (stands : (service.afterLog address earlier).store.part? ⟨key, .record⟩ =
        some (.record stood))
      (returns : stood.Returns record) :
      Writes address service sync key ledger speaker before ⟨key, .record record⟩

/-- A save replaces nothing else. -/
theorem writes_of_save (listens : network.address = some address)
    (failing : Network.Failing network.faults) (knows : sync.client.Knows address)
    {before : List (Exchange ι)} {exchange : Exchange ι}
    (saves : dialogues exchange.speaker = sync.save key ledger)
    (listed : before ++ [exchange] <+:
      (turns Network.exchange (start network dialogues) schedule).log)
    {replacement : Replacement} (reported : exchange.replaced? address = some replacement) :
    Writes address network.service sync key ledger exchange.speaker before replacement := by
  have logged := logged_turns listens failing dialogues schedule
  have answers := logged.answers before exchange listed
  rcases exists_stage saves listed with ⟨next, stage⟩
  rcases exchange with ⟨speaker, call, reply⟩
  dsimp only at saves stage answers
  generalize spoken : said before speaker = words at stage
  cases stage with
  | begun =>
      rcases answers.properties knows reported with ⟨properties, rfl, taken⟩
      exact .properties taken
  | stored first =>
      cases (Network.replaced?_of_get rfl).symm.trans reported
  | fetched first brought =>
      next answer fetched =>
      rcases answers.record knows reported with ⟨record, rfl, taken⟩
      rcases Sync.fetchedRecord_eq_ok_iff.1 brought with ⟨body, succeeded, read⟩
      have split : said before speaker =
          [(sync.propertiesCall key ledger, first)] ++ (sync.fetchCall key, answer) :: [] := spoken
      rcases exists_of_said split with ⟨earlier, between, rfl, begins, silent⟩
      have fetchListed : earlier ++ [⟨speaker, sync.fetchCall key, answer⟩] <+:
          (turns Network.exchange (start network dialogues) schedule).log :=
        (prefix_of_split rfl).trans ((List.prefix_append _ _).trans listed)
      rcases (logged.answers earlier _ fetchListed).fetch knows succeeded with ⟨stood, found, rfl⟩
      have returned : stood.returned? = some record :=
        Submission.returned?_eq_some_iff.2 ⟨fetched, read, taken⟩
      exact .record rfl ⟨first, begins⟩ silent found returned

/-- Whatever is asked at a stage of a save names its submission. -/
theorem exists_names_of_stage (knows : sync.client.Knows address) {words : List (Call × Reply)}
    {call : Call} {next : Reply → Dialogue (Except SyncError Unit)}
    (stage : sync.Stage key ledger words (.ask call next)) :
    ∃ aspect, Network.Names address call ⟨key, aspect⟩ := by
  cases stage with
  | begun => exact ⟨.properties, Network.names_properties knows⟩
  | stored first => exact ⟨.record, Network.names_record knows⟩
  | fetched first brought => exact ⟨.record, Network.names_record knows⟩

/-! ## The history of a record -/

section History

variable {service : Service} {whole : List (Exchange ι)} {old : StoredSubmission}

omit [DecidableEq ι] in
/-- What stands in a place was there from the beginning, or an exchange has put it there
and none has put anything there after that. -/
theorem part?_cases (service : Service) (log : List (Exchange ι)) {place : Place} {part : Part}
    (stands : (service.afterLog address log).store.part? place = some part) :
    ((∀ exchange ∈ log, exchange.written? address place = none) ∧
      service.store.part? place = some part) ∨
    ∃ before exchange behind, log = before ++ exchange :: behind ∧
      exchange.written? address place = some part ∧
      ∀ later ∈ behind, later.written? address place = none := by
  rw [Service.part?_afterLog] at stands
  rcases Option.map_eq_some_iff.1 stands with ⟨first, seeded, now⟩
  rcases filterMap_getLast?_cases (·.written? address place) log with
    ⟨idle, none⟩ | ⟨before, exchange, behind, result, split, written, idle, latest⟩
  · rw [none, Option.getD_none] at now
    exact .inl ⟨idle, now ▸ seeded⟩
  · rw [latest, Option.getD_some] at now
    exact .inr ⟨before, exchange, behind, split, now ▸ written, idle⟩

/-- When only saves write records, every record that stood there goes back to the first
one. -/
theorem returns_of_part? (writes : ∀ before exchange replacement, before ++ [exchange] <+: whole →
      exchange.replaced? address = some replacement →
        ∃ sync key ledger, Writes address service sync key ledger exchange.speaker before
          replacement)
    (found : service.store.get? key = some old) (bound : Nat) :
    ∀ log, log.length < bound → log <+: whole → ∀ stood,
      (service.afterLog address log).store.part? ⟨key, .record⟩ = some (.record stood) →
        Relation.ReflTransGen Submission.Returns old.submission stood := by
  induction bound with
  | zero => exact fun log impossible => absurd impossible (Nat.not_lt_zero _)
  | succ bound inductionHypothesis =>
  intro log within listed stood stands
  rcases part?_cases service log stands with ⟨_, seeded⟩ | ⟨before, exchange, behind, rfl, written, _⟩
  · rw [Store.part?, found] at seeded
    cases seeded
    exact .refl
  · rcases Exchange.written?_eq_some_iff.1 written with ⟨⟨other, part⟩, reported, here, rfl⟩
    cases here
    have shown := (prefix_of_split rfl).trans listed
    rcases writes before exchange _ shown reported with ⟨sync, _, ledger, wrote⟩
    -- The record came back of one that stood there when less had been exchanged.
    cases wrote with
    | @record earlier between reply first _ split _ _ fetched returns =>
        rw [split] at shown within
        have shorter : earlier.length < bound := by
          simp only [List.length_append, List.length_cons] at within
          omega
        have shownEarlier : earlier <+: whole :=
          (List.prefix_append _ _).trans ((List.prefix_append _ _).trans shown)
        exact (inductionHypothesis earlier shorter shownEarlier first fetched).tail returns

end History

/-! ## Sessions that save at the same time -/

section Sessions

variable {saves : ι → SaveRequest} {session : ι} {old stored : StoredSubmission}

/-- Sessions that save at the same time, each its own ledger. -/
def saving (network : Network) (saves : ι → SaveRequest) (schedule : List ι) :
    Interleaving ι (Except SyncError Unit) Network :=
  turns Network.exchange (start network fun session => (saves session).run) schedule

theorem saving_concat (schedule : List ι) (session : ι) :
    saving network saves (schedule ++ [session]) =
      turn Network.exchange (saving network saves schedule) session :=
  turns_concat _ schedule session

variable (listens : network.address = some address) (failing : Network.Failing network.faults)
  (knows : ∀ session, (saves session).sync.client.Knows address)

include listens failing knows

theorem writes_saving {before : List (Exchange ι)} {exchange : Exchange ι}
    {replacement : Replacement}
    (listed : before ++ [exchange] <+: (saving network saves schedule).log)
    (reported : exchange.replaced? address = some replacement) :
    Writes address network.service (saves exchange.speaker).sync (saves exchange.speaker).key
      (saves exchange.speaker).ledger exchange.speaker before replacement := by
  have runs : (fun session => (saves session).run) exchange.speaker =
      (saves exchange.speaker).sync.save (saves exchange.speaker).key
        (saves exchange.speaker).ledger := rfl
  unfold saving at listed
  exact writes_of_save listens failing (knows exchange.speaker) runs listed reported

omit knows in
theorem keys_saving :
    (saving network saves schedule).state.service.store.keys = network.service.store.keys := by
  have logged := logged_turns listens failing (fun session => (saves session).run) schedule
  rw [saving, logged.service, Service.keys_afterLog]

omit knows in
theorem part?_saving (place : Place) :
    (network.service.afterLog address (saving network saves schedule).log).store.part? place =
      (saving network saves schedule).state.service.store.part? place := by
  have logged := logged_turns listens failing (fun session => (saves session).run) schedule
  rw [saving, ← logged.service]

/-- The properties are those that the last session stored, if any did. -/
theorem properties_saving
    (now : (saving network saves schedule).state.service.store.get? key = some stored)
    (found : network.service.store.get? key = some old) :
    ((∀ exchange ∈ (saving network saves schedule).log,
        exchange.written? address ⟨key, .properties⟩ = none) ∧
      stored.properties = old.properties) ∨
    ∃ before exchange behind, (saving network saves schedule).log = before ++ exchange :: behind ∧
      exchange.written? address ⟨key, .properties⟩ = some (.properties stored.properties) ∧
      (∀ later ∈ behind, later.written? address ⟨key, .properties⟩ = none) ∧
      (saves exchange.speaker).key = key ∧
      Service.received Json.keep (saves exchange.speaker).ledger.toJson =
        some stored.properties := by
  have stands : (network.service.afterLog address (saving network saves schedule).log).store.part?
      ⟨key, .properties⟩ = some (.properties stored.properties) := by
    rw [part?_saving listens failing, Store.part?, now]
    rfl
  rcases part?_cases network.service _ stands with
    ⟨idle, seeded⟩ | ⟨before, exchange, behind, split, written, idle⟩
  · rw [Store.part?, found] at seeded
    exact .inl ⟨idle, (Part.properties.inj (Option.some.inj seeded)).symm⟩
  · rcases Exchange.written?_eq_some_iff.1 written with ⟨⟨other, part⟩, reported, here, same⟩
    cases same
    have listed := prefix_of_split split
    cases writes_saving listens failing knows listed reported with
    | properties taken =>
        exact .inr ⟨before, exchange, behind, split, written, idle,
          congrArg Place.key here, taken⟩

/-- The record goes back to the first one, and if any session has written it, it has been
graded. -/
theorem record_saving
    (now : (saving network saves schedule).state.service.store.get? key = some stored)
    (found : network.service.store.get? key = some old) :
    Relation.ReflTransGen Submission.Returns old.submission stored.submission ∧
      ((∀ exchange ∈ (saving network saves schedule).log,
          exchange.written? address ⟨key, .record⟩ = none) ∨
        stored.submission.manualStatus = .manuallyGraded) := by
  have writes : ∀ before exchange replacement,
      before ++ [exchange] <+: (saving network saves schedule).log →
        exchange.replaced? address = some replacement →
          ∃ sync key ledger, Writes address network.service sync key ledger exchange.speaker before
            replacement :=
    fun _ exchange _ listed reported =>
      ⟨_, _, _, writes_saving listens failing knows listed reported⟩
  have stands : (network.service.afterLog address (saving network saves schedule).log).store.part?
      ⟨key, .record⟩ = some (.record stored.submission) := by
    rw [part?_saving listens failing, Store.part?, now]
    rfl
  refine ⟨returns_of_part? writes found _ _ (Nat.lt_succ_self _) (List.prefix_refl _) _ stands, ?_⟩
  rcases part?_cases network.service _ stands with
    ⟨idle, _⟩ | ⟨before, exchange, behind, split, written, _⟩
  · exact .inl idle
  · rcases Exchange.written?_eq_some_iff.1 written with ⟨⟨other, part⟩, reported, _, same⟩
    cases same
    cases writes_saving listens failing knows (prefix_of_split split) reported with
    | record _ _ _ _ returns => exact .inr returns.status

/-- A session that has ended well has written the record. -/
theorem exists_written_of_done
    (finished : (saving network saves schedule).left session = .done (.ok ())) :
    (saves session).key ∈ network.service.store.keys ∧
      ∃ exchange ∈ (saving network saves schedule).log, ∃ part,
        exchange.written? address ⟨(saves session).key, .record⟩ = some part := by
  have logged := logged_turns listens failing (fun session => (saves session).run) schedule
  have leads := after?_said Network.exchange network
    (fun session => (saves session).run) schedule session
  unfold saving at finished ⊢
  rw [finished] at leads
  have stage := Sync.stage_save leads
  generalize spoken : said (turns Network.exchange (start network fun session =>
    (saves session).run) schedule).log session = words at stage
  cases stage with
  | marked first brought succeeded =>
      next answer last fetched body =>
      have split : said (turns Network.exchange (start network fun session =>
          (saves session).run) schedule).log session =
            [(_, first), (_, answer)] ++ ((saves session).sync.recordCall _ fetched, last) :: [] :=
        spoken
      rcases exists_of_said split with ⟨before, behind, listed, _, _⟩
      have answers := logged.answers before _ (prefix_of_split listed)
      rcases answers.reports rfl succeeded with ⟨replacement, reported⟩
      have known := (answers.fits reported).2.1
      rw [Service.keys_afterLog] at known
      rcases answers.record (knows session) reported with ⟨record, rfl, _⟩
      refine ⟨known, _, listed ▸ List.mem_append_right before List.mem_cons_self, .record record, ?_⟩
      exact Exchange.written?_eq_some_iff.2 ⟨_, reported, rfl, rfl⟩

/-- Once a session has ended well, its submission is graded and stays so. -/
theorem graded_of_done (finished : (saving network saves schedule).left session = .done (.ok ()))
    (later : List ι) :
    ∃ stored, (saving network saves (schedule ++ later)).state.service.store.get?
        (saves session).key = some stored ∧
      stored.submission.manualStatus = .manuallyGraded := by
  rcases exists_written_of_done listens failing knows finished with
    ⟨known, exchange, listed, part, written⟩
  have keys : (saving network saves (schedule ++ later)).state.service.store.keys =
      network.service.store.keys := keys_saving listens failing
  rcases Store.mem_keys_iff.1 known with ⟨old, found⟩
  rcases Store.mem_keys_iff.1 (keys ▸ known) with ⟨stored, now⟩
  refine ⟨stored, now, ?_⟩
  have grown : (saving network saves schedule).log <+:
      (saving network saves (schedule ++ later)).log := by
    unfold saving
    rw [turns_append]
    exact prefix_turns _ later
  rcases (record_saving listens failing knows now found).2 with idle | graded
  · cases (idle exchange (grown.subset listed)).symm.trans written
  · exact graded

/-! ### Sessions of different submissions -/

omit listens failing knows in
/-- Two interleavings agree on a submission: on what the service holds of it, and on what is
left to its sessions. -/
structure AgreeOn (saves : ι → SaveRequest) (key : SubmissionKey)
    (whole alone : Interleaving ι (Except SyncError Unit) Network) : Prop where
  submission : whole.state.service.store.get? key = alone.state.service.store.get? key
  left : ∀ session, (saves session).key = key → whole.left session = alone.left session

variable {whole alone : Interleaving ι (Except SyncError Unit) Network}

omit failing in
/-- A turn of a session leaves other submissions alone. -/
theorem AgreeOn.turn_left (agree : AgreeOn saves key whole alone)
    (logged : Logged address network whole)
    (leads : (saves session).run.after? (said whole.log session) = some (whole.left session))
    (different : (saves session).key ≠ key) :
    AgreeOn saves key (turn Network.exchange whole session) alone := by
  rcases turn_cases Network.exchange whole session with
    ⟨_, same⟩ | ⟨call, next, reply, state, asks, answered, same⟩
  · rw [same]
    exact agree
  rw [asks] at leads
  rcases exists_names_of_stage (knows session) (Sync.stage_save leads) with ⟨aspect, names⟩
  have untouched := Network.get?_exchange_of_ne (logged.follows.address.trans listens)
    logged.follows.failing names different
  rw [answered] at untouched
  rw [same]
  refine ⟨untouched.trans agree.submission, ?_⟩
  intro other concerned
  have another : other ≠ session := by
    rintro rfl
    exact different concerned
  exact (Function.update_of_ne another _ _).trans (agree.left other concerned)

omit failing in
/-- A turn of a session of the submission is the same in both, if there are no faults. -/
theorem AgreeOn.turn_both (agree : AgreeOn saves key whole alone) (faultless : network.faults = [])
    (loggedWhole : Logged address network whole) (loggedAlone : Logged address network alone)
    (leads : (saves session).run.after? (said whole.log session) = some (whole.left session))
    (concerned : (saves session).key = key) :
    AgreeOn saves key (turn Network.exchange whole session)
      (turn Network.exchange alone session) := by
  have together := agree.left session concerned
  rcases turn_cases Network.exchange whole session with
    ⟨⟨result, finished⟩, same⟩ | ⟨call, next, reply, state, asks, answered, same⟩
  · have idle : turn Network.exchange alone session = alone := by
      unfold turn
      rw [← together, finished]
    rw [same, idle]
    exact agree
  rw [asks] at leads
  rcases exists_names_of_stage (knows session) (Sync.stage_save leads) with ⟨aspect, names⟩
  rw [concerned] at names
  have access : whole.state.service.access = alone.state.service.access := by
    rw [loggedWhole.service, loggedAlone.service]
    rfl
  rcases Network.exchange_congr (loggedWhole.follows.address.trans listens)
    (loggedAlone.follows.address.trans listens) (loggedWhole.follows.faultless faultless)
    (loggedAlone.follows.faultless faultless) names access agree.submission with
    ⟨sameReply, sameSubmission⟩
  have turned : turn Network.exchange alone session =
      ⟨(Network.exchange call alone.state).2,
        Function.update alone.left session (next (Network.exchange call alone.state).1),
        alone.log ++ [⟨session, call, (Network.exchange call alone.state).1⟩]⟩ := by
    unfold turn
    rw [← together, asks]
  rw [same, turned, ← sameReply, answered]
  rw [answered] at sameSubmission
  refine ⟨sameSubmission, ?_⟩
  intro other concernedOther
  by_cases here : other = session
  · rw [here]
    have updated := @Function.update_self ι (fun _ => Dialogue (Except SyncError Unit)) _ session
    exact (updated (next reply) whole.left).trans (updated (next reply) alone.left).symm
  · have elsewhere := (agree.left other concernedOther).trans
      (Function.update_of_ne here (next reply) alone.left).symm
    exact (Function.update_of_ne here _ _).trans elsewhere

/-- When no fault comes in between, the sessions of a submission go on as if there were no
others, and so does the submission. -/
theorem agreeOn_filter (faultless : network.faults = []) (schedule : List ι) (key : SubmissionKey) :
    AgreeOn saves key (saving network saves schedule)
      (saving network saves (schedule.filter fun session => (saves session).key = key)) := by
  induction schedule using List.reverseRecOn with
  | nil => exact ⟨rfl, fun _ _ => rfl⟩
  | append_singleton schedule session inductionHypothesis =>
      have logged : ∀ turns, Logged address network (saving network saves turns) :=
        logged_turns listens failing fun session => (saves session).run
      have leads := after?_said Network.exchange network (fun session => (saves session).run)
        schedule session
      rw [saving_concat, List.filter_append]
      by_cases concerned : (saves session).key = key
      · have taken : [session].filter (fun session => (saves session).key = key) = [session] :=
          List.filter_cons_of_pos (decide_eq_true concerned)
        rw [taken, saving_concat]
        exact inductionHypothesis.turn_both listens knows faultless (logged schedule) (logged _) leads
          concerned
      · have passed : [session].filter (fun session => (saves session).key = key) = [] :=
          List.filter_cons_of_neg (by simp only [concerned, decide_false, Bool.false_eq_true,
            not_false_eq_true])
        rw [passed, List.append_nil]
        exact inductionHypothesis.turn_left listens knows (logged schedule) leads concerned

/-! ### All together -/

/-- What holds of a submission while sessions save: its properties are the first ones, or
what was received of the ledger that was stored last, and its record is the first one
or has come back, graded. -/
structure Unmixed (address : String) (saves : ι → SaveRequest) (log : List (Exchange ι))
    (key : SubmissionKey) (old stored : StoredSubmission) : Prop where
  properties :
    ((∀ exchange ∈ log, exchange.written? address ⟨key, .properties⟩ = none) ∧
      stored.properties = old.properties) ∨
    ∃ before exchange behind, log = before ++ exchange :: behind ∧
      exchange.written? address ⟨key, .properties⟩ = some (.properties stored.properties) ∧
      (∀ later ∈ behind, later.written? address ⟨key, .properties⟩ = none) ∧
      (saves exchange.speaker).key = key ∧
      Service.received Json.keep (saves exchange.speaker).ledger.toJson =
        some stored.properties ∧
      (stored.properties = (saves exchange.speaker).ledger.toJson ↔
        (saves exchange.speaker).ledger.toJson.Durable)
  record : Relation.ReflTransGen Submission.Returns old.submission stored.submission
  status : stored.submission = old.submission ∨
    stored.submission.manualStatus = .manuallyGraded
  durable : old.submission.toJson.Durable →
    stored.submission = old.submission ∨ stored.submission = old.submission.graded

/-- Saves are never mixed, whoever takes turns.  Every submission is as its own sessions
left it: the properties come from the session that stored some last, and they are its
ledger's payload just when that is durable; the record is the first one but for its
status, as far as it is durable.  Once a session has ended well, its submission is
graded and stays so, and without faults sessions of other submissions make no
difference. -/
theorem saving_unmixed (sound : network.service.store.Sound)
    (reachable : ∀ session, (saves session).ledger.Reachable) (schedule : List ι) :
    let held := saving network saves schedule
    held.state.service.store.keys = network.service.store.keys ∧
    (∀ key old, network.service.store.get? key = some old →
      ∃ stored, held.state.service.store.get? key = some stored ∧
        Unmixed address saves held.log key old stored) ∧
    (∀ session, held.left session = .done (.ok ()) → ∀ later,
      ∃ stored, (saving network saves (schedule ++ later)).state.service.store.get?
          (saves session).key = some stored ∧
        stored.submission.manualStatus = .manuallyGraded) ∧
    (network.faults = [] → ∀ key, AgreeOn saves key held
      (saving network saves (schedule.filter fun session => (saves session).key = key))) := by
  intro held
  have keys : held.state.service.store.keys = network.service.store.keys :=
    keys_saving listens failing
  refine ⟨keys, ?_, fun session finished => graded_of_done listens failing knows finished,
    fun faultless => agreeOn_filter listens failing knows faultless schedule⟩
  intro key old found
  rcases Store.mem_keys_iff.1 (keys ▸ Store.mem_keys_iff.2 ⟨old, found⟩) with ⟨stored, now⟩
  have returns := (record_saving listens failing knows now found).1
  refine ⟨stored, now, ?_, returns, Submission.status_of_returns returns, fun durable =>
    Submission.eq_graded_of_returns (sound.canonical key old found) durable returns⟩
  rcases properties_saving listens failing knows now found with
    idle | ⟨before, exchange, behind, split, written, idle, named, taken⟩
  · exact .inl idle
  · exact .inr ⟨before, exchange, behind, split, written, idle, named, taken,
      Sync.eq_toJson_iff (reachable exchange.speaker) taken⟩

end Sessions

omit [DecidableEq ι] in
/-- Where only a ledger whose double drifts is saved, no session finds its payload. -/
theorem Unmixed.ne_toJson {saves : ι → SaveRequest} {log : List (Exchange ι)}
    {key : SubmissionKey} {old stored : StoredSubmission}
    (unmixed : Unmixed address saves log key old stored)
    (ledgers : ∀ session, (saves session).ledger = Drift.ledger)
    (changed : stored.properties ≠ old.properties) (session : ι) :
    stored.properties ≠ (saves session).ledger.toJson := by
  intro same
  rcases unmixed.properties with ⟨_, first⟩ | ⟨_, exchange, _, _, _, _, _, _, durable⟩
  · exact changed first
  · rw [ledgers] at same durable
    have canonical := (Ledger.Reachable.ofText Drift.ofText_payload).canonical_toJson
    exact Drift.drifts ((Json.readText_keep_compress_iff canonical).2 (durable.1 same))

theorem changed_of_drift :
    ((saving Drift.network (fun _ : Bool => ⟨Drift.sync, Drift.key, Drift.ledger⟩)
      [true, false, true, false, true, false]).state.service.store.get? Drift.key).map
        (fun stored => stored.properties.compress) ≠ some "\x7b\x7d" := by
  decide +kernel

/-- Two sessions save a ledger whose double drifts.  What the service holds in the end is
neither what it held before nor the payload of any session. -/
theorem saving_unmixed_of_drift :
    let saves : Bool → SaveRequest := fun _ => ⟨Drift.sync, Drift.key, Drift.ledger⟩
    let held := saving Drift.network saves [true, false, true, false, true, false]
    ∃ old stored, Drift.network.service.store.get? Drift.key = some old ∧
      held.state.service.store.get? Drift.key = some stored ∧
      Unmixed "a" saves held.log Drift.key old stored ∧
      stored.properties ≠ old.properties ∧
      ∀ session, stored.properties ≠ (saves session).ledger.toJson := by
  have listens : Drift.network.address = some "a" := by decide +kernel
  have knows : Drift.sync.client.baseUrl = "a" ++ SubmissionKey.mount := by decide +kernel
  have known : (Drift.network.service.store.get? Drift.key).isSome = true := by decide +kernel
  rcases Option.isSome_iff_exists.1 known with ⟨old, found⟩
  have before : (Drift.network.service.store.get? Drift.key).map
      (fun old => old.properties.compress) = some "\x7b\x7d" := by
    decide +kernel
  -- The sessions are written out: a name for them would have the run evaluated once more.
  have whole := @saving_unmixed Bool _ "a" Drift.network
    (fun _ => ⟨Drift.sync, Drift.key, Drift.ledger⟩) listens Drift.connected.failing
    (fun _ => knows) Drift.sound (fun _ => .ofText Drift.ofText_payload)
    [true, false, true, false, true, false]
  rcases whole.2.1 Drift.key old found with ⟨stored, now, unmixed⟩
  have changed : stored.properties ≠ old.properties := by
    intro same
    apply changed_of_drift
    rw [now, Option.map_some, same, ← before, found, Option.map_some]
  exact ⟨old, stored, found, now, unmixed, changed, unmixed.ne_toJson (fun _ => rfl) changed⟩

end Interleaving

end Gradebook
