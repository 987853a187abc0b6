import Gradebook.Proofs.Client.Answers
import Gradebook.Proofs.Client.Dialogue
import Mathlib.Logic.Function.Basic

namespace Gradebook

/-!
# Dialogues held at the same time

Any number of dialogues may be held with one link, which answers one call at a time.
A schedule says whose turn it is; whoever is done lets a turn pass.  The log tells who
asked what and what the reply was.

Two views of a log are kept apart.  What one speaker said and heard leads through
their own dialogue, whatever the others do.  What the service did is told by the log
as a whole: its store is the initial one with the replacements of the log, and every
reply is a failure or the service's own response at that time.
-/

namespace Dialogue

variable {α : Type}

/-- What is left of a dialogue after some exchanges, if these are what it asks. -/
def after? : List (Call × Reply) → Dialogue α → Option (Dialogue α)
  | [], dialogue => some dialogue
  | (asked, reply) :: rest, dialogue =>
    match dialogue with
    | .done _ => none
    | .ask call next => if asked = call then (next reply).after? rest else none

theorem after?_append (dialogue : Dialogue α) (first second : List (Call × Reply)) :
    dialogue.after? (first ++ second) =
      (dialogue.after? first).bind fun left => left.after? second := by
  induction first generalizing dialogue with
  | nil => rfl
  | cons exchange rest inductionHypothesis =>
      rcases exchange with ⟨asked, reply⟩
      cases dialogue with
      | done result => rfl
      | ask call next =>
          simp only [List.cons_append, after?]
          split_ifs
          · exact inductionHypothesis (next reply)
          · rfl

theorem after?_done {result : α} {said : List (Call × Reply)} {left : Dialogue α}
    (leads : (Dialogue.done result).after? said = some left) :
    said = [] ∧ left = .done result := by
  cases said with
  | nil => exact ⟨rfl, (Option.some.inj leads).symm⟩
  | cons exchange rest => cases leads

theorem after?_ask {call : Call} {next : Reply → Dialogue α} {said : List (Call × Reply)}
    {left : Dialogue α} (leads : (Dialogue.ask call next).after? said = some left) :
    (said = [] ∧ left = .ask call next) ∨
      ∃ reply rest, said = (call, reply) :: rest ∧ (next reply).after? rest = some left := by
  cases said with
  | nil => exact .inl ⟨rfl, (Option.some.inj leads).symm⟩
  | cons exchange rest =>
      rcases exchange with ⟨asked, reply⟩
      simp only [after?] at leads
      split_ifs at leads with same
      rw [same]
      exact .inr ⟨reply, rest, rfl, leads⟩

/-- What is said in a dialogue is what was to be asked at that time. -/
theorem exists_ask_of_after? {dialogue left : Dialogue α} {earlier later : List (Call × Reply)}
    {call : Call} {reply : Reply}
    (leads : dialogue.after? (earlier ++ (call, reply) :: later) = some left) :
    ∃ next, dialogue.after? earlier = some (.ask call next) := by
  rw [after?_append] at leads
  rcases Option.bind_eq_some_iff.1 leads with ⟨middle, before, behind⟩
  cases middle with
  | done result => cases behind
  | ask expected next =>
      simp only [after?] at behind
      split_ifs at behind with same
      exact ⟨next, same ▸ before⟩

end Dialogue

/-! ## Interleavings -/

/-- What somebody asked and what the reply was. -/
structure Exchange (ι : Type) where
  speaker : ι
  call : Call
  reply : Reply

/-- Dialogues that are held with one link: the state of the link, what is left of each
dialogue, and what has been exchanged. -/
structure Interleaving (ι α σ : Type) where
  state : σ
  left : ι → Dialogue α
  log : List (Exchange ι)

namespace Interleaving

variable {ι α σ : Type} [DecidableEq ι] {link : Link σ}

/-- Nothing has been exchanged yet. -/
def start (state : σ) (dialogues : ι → Dialogue α) : Interleaving ι α σ :=
  ⟨state, dialogues, []⟩

/-- Somebody asks what is next in their dialogue, unless they are done. -/
def turn (link : Link σ) (held : Interleaving ι α σ) (speaker : ι) : Interleaving ι α σ :=
  match held.left speaker with
  | .done _ => held
  | .ask call next =>
    let (reply, state) := link call held.state
    ⟨state, Function.update held.left speaker (next reply), held.log ++ [⟨speaker, call, reply⟩]⟩

/-- Take turns. -/
def turns (link : Link σ) (held : Interleaving ι α σ) (schedule : List ι) : Interleaving ι α σ :=
  schedule.foldl (turn link) held

theorem turns_append (held : Interleaving ι α σ) (first second : List ι) :
    turns link held (first ++ second) = turns link (turns link held first) second :=
  List.foldl_append

theorem turns_concat (held : Interleaving ι α σ) (schedule : List ι) (speaker : ι) :
    turns link held (schedule ++ [speaker]) = turn link (turns link held schedule) speaker :=
  turns_append held schedule [speaker]

/-- A turn passes, or one call is answered. -/
theorem turn_cases (link : Link σ) (held : Interleaving ι α σ) (speaker : ι) :
    ((∃ result, held.left speaker = .done result) ∧ turn link held speaker = held) ∨
    ∃ call next reply state, held.left speaker = .ask call next ∧
      link call held.state = (reply, state) ∧
      turn link held speaker =
        ⟨state, Function.update held.left speaker (next reply),
          held.log ++ [⟨speaker, call, reply⟩]⟩ := by
  unfold turn
  cases held.left speaker with
  | done result => exact .inl ⟨⟨result, rfl⟩, rfl⟩
  | ask call next => exact .inr ⟨call, next, _, _, rfl, rfl, rfl⟩

theorem prefix_turns (held : Interleaving ι α σ) (schedule : List ι) :
    held.log <+: (turns link held schedule).log := by
  induction schedule using List.reverseRecOn with
  | nil => exact List.prefix_refl held.log
  | append_singleton schedule speaker inductionHypothesis =>
      rw [turns_concat]
      rcases turn_cases link (turns link held schedule) speaker with
        ⟨_, same⟩ | ⟨call, next, reply, state, _, _, same⟩
      · rw [same]
        exact inductionHypothesis
      · rw [same]
        exact inductionHypothesis.trans (List.prefix_append _ _)

omit [DecidableEq ι] in
theorem prefix_of_split {log before behind : List (Exchange ι)} {exchange : Exchange ι}
    (split : log = before ++ exchange :: behind) : before ++ [exchange] <+: log := by
  refine ⟨behind, ?_⟩
  rw [split, List.append_assoc]
  rfl

/-! ## What one speaker said -/

/-- What somebody said and heard. -/
def said (log : List (Exchange ι)) (speaker : ι) : List (Call × Reply) :=
  (log.filter (·.speaker = speaker)).map fun exchange => (exchange.call, exchange.reply)

theorem said_append (first second : List (Exchange ι)) (speaker : ι) :
    said (first ++ second) speaker = said first speaker ++ said second speaker := by
  rw [said, List.filter_append, List.map_append]
  rfl

theorem said_cons_self (exchange : Exchange ι) (log : List (Exchange ι)) :
    said (exchange :: log) exchange.speaker =
      (exchange.call, exchange.reply) :: said log exchange.speaker := by
  have spoken : decide (exchange.speaker = exchange.speaker) = true := decide_eq_true rfl
  rw [said, List.filter_cons, if_pos spoken, List.map_cons]
  rfl

theorem said_singleton_of_ne {exchange : Exchange ι} {speaker : ι}
    (different : exchange.speaker ≠ speaker) : said [exchange] speaker = [] := by
  have silent : ¬ decide (exchange.speaker = speaker) = true :=
    fun spoken => different (of_decide_eq_true spoken)
  rw [said, List.filter_cons, if_neg silent, List.filter_nil, List.map_nil]

theorem mem_said {log : List (Exchange ι)} {exchange : Exchange ι} (listed : exchange ∈ log) :
    (exchange.call, exchange.reply) ∈ said log exchange.speaker :=
  List.mem_map_of_mem (List.mem_filter.2 ⟨listed, decide_eq_true rfl⟩)

/-- What somebody said stands somewhere in the log. -/
theorem exists_of_said {log : List (Exchange ι)} {speaker : ι} {earlier later : List (Call × Reply)}
    {call : Call} {reply : Reply} (spoken : said log speaker = earlier ++ (call, reply) :: later) :
    ∃ before behind, log = before ++ ⟨speaker, call, reply⟩ :: behind ∧
      said before speaker = earlier ∧ said behind speaker = later := by
  rcases List.map_eq_append_iff.1 spoken with ⟨first, second, split, rfl, rest⟩
  rcases List.map_eq_cons_iff.1 rest with ⟨⟨other, asked, answer⟩, others, rfl, same, rfl⟩
  cases same
  rcases List.filter_eq_append_iff.1 split with ⟨front, back, rfl, rfl, tail⟩
  rcases List.filter_eq_cons_iff.1 tail with ⟨skipped, behind, rfl, unspoken, here, rfl⟩
  cases of_decide_eq_true here
  refine ⟨front ++ skipped, behind, (List.append_assoc _ _ _).symm, ?_, rfl⟩
  rw [said_append]
  have silent : said skipped other = [] := by
    rw [said, List.filter_eq_nil_iff.2 unspoken, List.map_nil]
  rw [silent, List.append_nil]
  rfl

/-- What somebody said and heard leads through their own dialogue. -/
theorem after?_said (link : Link σ) (state : σ) (dialogues : ι → Dialogue α) (schedule : List ι) (speaker : ι) :
    (dialogues speaker).after? (said (turns link (start state dialogues) schedule).log speaker) =
      some ((turns link (start state dialogues) schedule).left speaker) := by
  induction schedule using List.reverseRecOn with
  | nil => rfl
  | append_singleton schedule other inductionHypothesis =>
      rw [turns_concat]
      rcases turn_cases link (turns link (start state dialogues) schedule) other with
        ⟨_, same⟩ | ⟨call, next, reply, state, asks, _, same⟩
      · rw [same]
        exact inductionHypothesis
      · rw [same]
        dsimp only
        rw [said_append, Dialogue.after?_append, inductionHypothesis, Option.bind_some]
        by_cases here : other = speaker
        · subst here
          rw [said_cons_self ⟨other, call, reply⟩, Function.update_self, asks]
          exact if_pos rfl
        · rw [said_singleton_of_ne here, Function.update_of_ne (Ne.symm here)]
          rfl

end Interleaving

/-! ## Logs of a network -/

/-- The last of the results of a list stands behind all the others. -/
theorem filterMap_getLast?_cases {β γ : Type} (select : β → Option γ) (items : List β) :
    ((∀ item ∈ items, select item = none) ∧ (items.filterMap select).getLast? = none) ∨
    ∃ before item behind result, items = before ++ item :: behind ∧ select item = some result ∧
      (∀ later ∈ behind, select later = none) ∧ (items.filterMap select).getLast? = some result := by
  induction items using List.reverseRecOn with
  | nil => exact .inl ⟨nofun, rfl⟩
  | append_singleton items last inductionHypothesis =>
      rw [List.filterMap_append, List.filterMap_cons, List.filterMap_nil]
      cases selected : select last with
      | some result =>
          exact .inr ⟨items, last, [], result, rfl, selected, nofun, List.getLast?_concat⟩
      | none =>
          dsimp only
          rw [List.append_nil]
          rcases inductionHypothesis with ⟨idle, none⟩ |
            ⟨before, item, behind, result, rfl, found, idle, latest⟩
          · refine .inl ⟨?_, none⟩
            intro item listed
            rcases List.mem_append.1 listed with earlier | now
            · exact idle item earlier
            · rw [List.mem_singleton.1 now]
              exact selected
          · refine .inr ⟨before, item, behind ++ [last], result, List.append_assoc _ _ _, found, ?_,
              latest⟩
            intro later listed
            rcases List.mem_append.1 listed with earlier | now
            · exact idle later earlier
            · rw [List.mem_singleton.1 now]
              exact selected

namespace Exchange

variable {ι : Type}

/-- The replacement that an exchange has brought about. -/
def replaced? (address : String) (exchange : Exchange ι) : Option Replacement :=
  Network.replaced? address exchange.call exchange.reply

/-- What an exchange has put in a place. -/
def written? (address : String) (place : Place) (exchange : Exchange ι) : Option Part :=
  ((exchange.replaced? address).filter (·.place = place)).map Replacement.part

theorem written?_eq_some_iff {address : String} {place : Place} {exchange : Exchange ι}
    {part : Part} : exchange.written? address place = some part ↔
      ∃ replacement, exchange.replaced? address = some replacement ∧ replacement.place = place ∧
        replacement.part = part := by
  simp only [written?, Option.map_eq_some_iff, Option.filter_eq_some_iff, decide_eq_true_eq,
    and_assoc]

end Exchange

namespace Service

variable {ι : Type}

/-- The service after the exchanges of a log. -/
def afterLog (service : Service) (address : String) (log : List (Exchange ι)) : Service :=
  { service with store := service.store.replaceAll (log.filterMap (·.replaced? address)) }

theorem keys_afterLog (service : Service) (address : String) (log : List (Exchange ι)) :
    (service.afterLog address log).store.keys = service.store.keys :=
  Store.keys_replaceAll _ _

/-- What an exchange has put in a place last stands there. -/
theorem part?_afterLog (service : Service) (address : String) (log : List (Exchange ι))
    (place : Place) :
    (service.afterLog address log).store.part? place =
      (service.store.part? place).map fun old =>
        (log.filterMap (·.written? address place)).getLast?.getD old := by
  have selected : ((log.filterMap (·.replaced? address)).filter (·.place = place)).map
      Replacement.part = log.filterMap (·.written? address place) := by
    rw [List.filter_filterMap, List.map_filterMap]
    rfl
  rw [afterLog, Store.part?_replaceAll, ← selected]
  simp only [List.getLast?_map]

end Service

namespace Interleaving

variable {ι α : Type} [DecidableEq ι] {address : String} {network : Network}

/-- The log of an interleaving explains the network: the service has made what the log
reports, and every reply was a failure or the response of the service at that time. -/
structure Logged (address : String) (network : Network) (held : Interleaving ι α Network) :
    Prop where
  follows : held.state.Follows network
  service : held.state.service = network.service.afterLog address held.log
  answers : ∀ before exchange, before ++ [exchange] <+: held.log →
    Network.Answers address (network.service.afterLog address before) exchange.call exchange.reply

theorem Logged.turn {held : Interleaving ι α Network} (listens : network.address = some address)
    (logged : Logged address network held) (speaker : ι) :
    Logged address network (turn Network.exchange held speaker) := by
  rcases turn_cases Network.exchange held speaker with
    ⟨_, same⟩ | ⟨call, next, reply, state, _, answered, same⟩
  · rw [same]
    exact logged
  rw [same]
  rcases Network.exchange_replaces call (logged.follows.address.trans listens)
    logged.follows.failing with ⟨_, _, exchanged, follows, answers, served⟩
  cases answered.symm.trans exchanged
  refine ⟨follows.trans logged.follows, ?_, ?_⟩
  · rw [served, logged.service]
    simp only [Service.afterLog, List.filterMap_append, List.filterMap_cons, List.filterMap_nil,
      Store.replaceAll, List.foldl_append]
    rw [Exchange.replaced?]
    cases Network.replaced? address call reply with
    | none => rfl
    | some replacement => rfl
  · intro before exchange listed
    rcases List.prefix_concat_iff.1 listed with last | earlier
    · rcases List.append_inj' last rfl with ⟨rfl, ⟨⟩⟩
      rw [← logged.service]
      exact answers
    · exact logged.answers before exchange earlier

/-- The log explains the network whoever took turns. -/
theorem logged_turns (listens : network.address = some address)
    (failing : Network.Failing network.faults) (dialogues : ι → Dialogue α) (schedule : List ι) :
    Logged address network (turns Network.exchange (start network dialogues) schedule) := by
  induction schedule using List.reverseRecOn with
  | nil =>
      refine ⟨⟨rfl, failing, id⟩, rfl, ?_⟩
      intro before exchange impossible
      cases List.append_ne_nil_of_right_ne_nil before (List.cons_ne_nil exchange [])
        (List.prefix_nil.1 impossible)
  | append_singleton schedule speaker inductionHypothesis =>
      rw [turns_concat]
      exact inductionHypothesis.turn listens speaker

end Interleaving

end Gradebook
