import Gradebook.Proofs.Client.Saving
import Gradebook.Proofs.Command.Change

namespace Gradebook

/-!
# Grading within a point budget

A manual score that is stored with a budget has passed the check of this budget: it
is finite and not negative, and it is not above the budget.  Unless the budget is no
number it is therefore at most the budget.  A budget that a payload records is always
a number, so that only one that is handed in can fail to be one.

From the command line to the request that replaces the grading properties nothing
else touches the score.  So what is said of the setter holds of every payload that a
command for grading sends.
-/

namespace Ledger

variable {ledger : Ledger} {notebook cell : String}

/-- A budget that is recorded is a number. -/
theorem isNaN_of_maxScore {points : Float}
    (recorded : ledger.maxScore notebook cell = .ok (some points)) : points.isNaN = false := by
  rcases Outcome.bind_eq_ok.1 recorded with ⟨entry, _, recorded⟩
  rcases Option.bind_eq_some_iff.1 (Outcome.pure_eq_ok.1 recorded) with ⟨value, _, read⟩
  cases value with
  | number n =>
      cases read
      exact Number.isNaN_toFloat n
  | _ => cases read

end Ledger

/-! ## Requests -/

namespace Sync

variable {σ : Type} {link : Link σ} {state : σ} {sync : Sync} {key : SubmissionKey}
  {exchange : Call × Reply}

/-- Whether an exchange replaces the grading properties of a submission. -/
def Replaces (sync : Sync) (key : SubmissionKey) (exchange : Call × Reply) : Prop :=
  exchange.1.method = .put ∧ exchange.1.url = sync.client.baseUrl ++ key.propertiesPath

theorem propertiesPath_ne (key : SubmissionKey) (baseUrl : String) :
    baseUrl ++ key.submissionPath ≠ baseUrl ++ key.propertiesPath := by
  intro same
  have lengths := congrArg String.length same
  rw [SubmissionKey.propertiesPath, String.length_append, String.length_append,
    String.length_append] at lengths
  have longer : "/properties".length = 11 := by decide
  omega

theorem not_replaces_of_load (listed : exchange ∈ (sync.load key).trace link state) :
    ¬ sync.Replaces key exchange := by
  rw [load_eq] at listed
  cases permitted : sync.authorize key with
  | error error =>
      rw [permitted] at listed
      cases listed
  | ok _ =>
      rw [permitted] at listed
      rcases List.mem_singleton.1 listed with rfl
      rintro ⟨put, _⟩
      cases put

theorem not_replaces_of_markGraded (listed : exchange ∈ (sync.markGraded key).trace link state) :
    ¬ sync.Replaces key exchange := by
  rw [markGraded_eq] at listed
  rcases List.mem_cons.1 listed with rfl | later
  · rintro ⟨put, _⟩
    cases put
  · dsimp only at later
    split at later
    · cases later
    · rcases List.mem_singleton.1 later with rfl
      rintro ⟨_, url⟩
      exact propertiesPath_ne key _ url

/-- A save replaces the properties by its ledger. -/
theorem body_of_save {ledger : Ledger} (listed : exchange ∈ (sync.save key ledger).trace link state)
    (replaces : sync.Replaces key exchange) : exchange.1.body = ledger.toJson.compress := by
  rw [save_eq] at listed
  cases permitted : sync.authorize key with
  | error error =>
      rw [permitted] at listed
      cases listed
  | ok _ =>
      rw [permitted] at listed
      rcases List.mem_cons.1 listed with rfl | later
      · rfl
      · dsimp only at later
        split at later
        · cases later
        · rw [Dialogue.trace_bind, List.mem_append] at later
          rcases later with marking | nothing
          · exact absurd replaces (not_replaces_of_markGraded marking)
          · cases nothing

end Sync

/-! ## The command -/

namespace Command

variable {σ : Type} {link : Link σ} {state : σ} {change : GradeChange} {ledger next : Ledger}
  {record : Ledger.Record}

/-- The point budget in force: the one that is given, else the recorded one. -/
def budget? (change : GradeChange) (ledger : Ledger) : Option Float :=
  change.maxPoints <|> (ledger.maxScore change.notebook change.cell).toOption.join

/-- A budget in force that is no number was given. -/
theorem maxPoints_of_isNaN {points : Float} (inForce : budget? change ledger = some points)
    (noNumber : points.isNaN = true) : change.maxPoints = some points := by
  unfold budget? at inForce
  cases given : change.maxPoints with
  | some other =>
      rw [given] at inForce
      exact inForce
  | none =>
      rw [given] at inForce
      cases recorded : ledger.maxScore change.notebook change.cell with
      | error error =>
          rw [recorded] at inForce
          cases inForce
      | ok found =>
          rw [recorded] at inForce
          subst inForce
          rw [Ledger.isNaN_of_maxScore recorded] at noNumber
          cases noNumber

/-- A score that is given is stored, if it passes the check of the budget in force. -/
theorem record_of_changeScore {score : Float} (given : change.score = some score)
    (changed : changeScore change ledger = .ok next) :
    score.isFinite = true ∧
      (∃ record, next.record change.notebook change.cell = .ok record ∧
        record.manualScore = some score) ∧
      ∀ points, budget? change ledger = some points → Score.check score points = .ok () := by
  unfold changeScore at changed
  simp only [given] at changed
  rcases Outcome.bind_eq_ok.1 changed with ⟨recorded, found, changed⟩
  have inForce : budget? change ledger = (change.maxPoints <|> recorded) := by
    rw [budget?, found]
    rfl
  rw [inForce]
  cases budget : (change.maxPoints <|> recorded) with
  | some points =>
      rw [budget] at changed
      rcases Ledger.setManualScoreChecked_eq_ok_iff.1 changed with ⟨checked, set⟩
      rcases Ledger.exists_record_of_setManualScore set with ⟨finite, record, _, written⟩
      refine ⟨finite, ⟨_, written, rfl⟩, ?_⟩
      rintro _ ⟨rfl⟩
      exact checked
  | none =>
      rw [budget] at changed
      rcases Ledger.exists_record_of_setManualScore changed with ⟨finite, record, _, written⟩
      exact ⟨finite, ⟨_, written, rfl⟩, nofun⟩

/-- What else a change does leaves the score alone. -/
theorem manualScore_of_applyChange {score : Float} (given : change.score = some score)
    (applied : applyChange change ledger = .ok next) :
    next.manualScore change.notebook change.cell = .ok (some score) ∧ score.isFinite = true ∧
      ∀ points, budget? change ledger = some points → Score.check score points = .ok () := by
  rcases Outcome.bind_eq_ok.1 applied with ⟨scored, changed, applied⟩
  rcases Outcome.bind_eq_ok.1 applied with ⟨credited, creditChanged, commentChanged⟩
  rcases record_of_changeScore given changed with ⟨finite, ⟨first, taken, same⟩, checked⟩
  have second := (sets_changeExtraCredit creditChanged).record taken
  have third := (sets_changeComment commentChanged).record second
  refine ⟨?_, finite, checked⟩
  rw [Ledger.manualScore_of_record third, ← same]
  cases change.extraCredit <;> cases change.comment <;> rfl

/-- The properties are replaced by the changed ledger, or not at all. -/
theorem exists_saved_of_gradeCell {sync : Sync} {key : SubmissionKey} {exchange : Call × Reply}
    (listed : exchange ∈ (gradeCell sync key change).trace link state)
    (replaces : sync.Replaces key exchange) :
    ∃ loaded saved, ((sync.load key).run link state).1 = .ok loaded ∧
      applyChange change loaded = .ok saved ∧ exchange.1.body = saved.toJson.compress := by
  rw [gradeCell, Dialogue.trace_bind, List.mem_append] at listed
  rcases listed with loading | later
  · exact absurd replaces (Sync.not_replaces_of_load loading)
  · cases loads : ((sync.load key).run link state).1 with
    | error error =>
        rw [loads] at later
        cases later
    | ok loaded =>
        rw [loads] at later
        dsimp only at later
        cases applied : applyChange change loaded with
        | error error =>
            rw [applied] at later
            cases later
        | ok saved =>
            rw [applied, Dialogue.trace_bind, List.mem_append] at later
            rcases later with saving | nothing
            · exact ⟨loaded, saved, rfl, applied, Sync.body_of_save saving replaces⟩
            · split at nothing
              · cases nothing
              · cases nothing

/-- A manual score that passes its check is finite, at least zero, and at most the
budget unless that is no number; extra credit that passes is finite and at least zero.
What passes is stored.  A command for grading replaces the grading properties only by
those of a ledger whose manual score is the score that was given, and this score is
within the budget in force, unless the budget was given and is no number. -/
theorem score_le_budget {σ : Type} :
    (∀ (ledger next : Ledger) (notebook cell : String) (score points : Float),
      ledger.setManualScoreChecked notebook cell score points = .ok next →
      score.isFinite = true ∧ 0 ≤ score ∧ (score ≤ points ↔ points.isNaN = false) ∧
        next.manualScore notebook cell = .ok (some score)) ∧
    (∀ (ledger next : Ledger) (notebook cell : String) (amount : Float),
      ledger.setExtraCreditChecked notebook cell amount = .ok next →
      amount.isFinite = true ∧ 0 ≤ amount ∧ next.extraCredit notebook cell = .ok amount) ∧
    ∀ (surroundings : Surroundings) (arguments : List String) (url token : Option String)
      (target : Target) (change : GradeChange) (score : Float) (link : Link σ) (state : σ),
      Arguments.parse arguments = some ⟨url, token, .grade target change⟩ →
      change.score = some score →
      let sync := syncFor surroundings (url <|> surroundings.environment.url?)
        (token <|> surroundings.environment.token?) target
      ∀ exchange ∈ (runArguments surroundings arguments).trace link state,
        sync.Replaces target.key exchange →
        ∃ loaded saved : Ledger, ((sync.load target.key).run link state).1 = .ok loaded ∧
          exchange.1.body = saved.toJson.compress ∧
          saved.manualScore change.notebook change.cell = .ok (some score) ∧
          score.isFinite = true ∧
          ∀ points, budget? change loaded = some points →
            0 ≤ score ∧ (score ≤ points ↔ points.isNaN = false) ∧
              (points.isNaN = true → change.maxPoints = some points) := by
  refine ⟨?_, ?_, ?_⟩
  · intro ledger next notebook cell score points set
    rcases Ledger.setManualScoreChecked_eq_ok_iff.1 set with ⟨checked, set⟩
    rcases Ledger.exists_record_of_setManualScore set with ⟨finite, record, _, written⟩
    have above := (Score.check_eq_ok_iff.1 checked).2.1
    exact ⟨finite, Score.zero_le_of_not_lt finite above, Score.le_iff checked,
      Ledger.manualScore_of_record written⟩
  · intro ledger next notebook cell amount set
    rcases Ledger.setExtraCreditChecked_eq_ok_iff.1 set with ⟨checked, set⟩
    rcases Ledger.exists_record_of_setExtraCredit set with ⟨finite, record, _, written⟩
    have above := (Score.checkExtra_eq_ok_iff.1 checked).2
    exact ⟨finite, Score.zero_le_of_not_lt finite above, Ledger.extraCredit_of_record written⟩
  · intro surroundings arguments url token target change score link state parsed given sync
      exchange listed replaces
    rw [runArguments, parsed] at listed
    rcases exists_saved_of_gradeCell listed replaces with ⟨loaded, saved, loads, applied, body⟩
    rcases manualScore_of_applyChange given applied with ⟨stored, finite, checked⟩
    refine ⟨loaded, saved, loads, body, stored, finite, ?_⟩
    intro points inForce
    have passed := checked points inForce
    have above := (Score.check_eq_ok_iff.1 passed).2.1
    exact ⟨Score.zero_le_of_not_lt finite above, Score.le_iff passed,
      maxPoints_of_isNaN inForce⟩

/-- With `NaN` for a budget a score of five is saved, and it is not at most the
budget. -/
theorem score_le_budget_of_nan :
    let arguments := ["grade", "--lecture", "1", "--assignment", "2", "--submission", "3",
      "--notebook", "h", "--cell", "c", "--score", "5", "--max-points", "NaN"]
    let change : GradeChange := ⟨"h", "c", some 5, none, none, some (0 / 0)⟩
    let payload := "\x7b\"h\":\x7b\"grades_dict\":\x7b\"c\":\x7b\x7d\x7d," ++
      "\"comments_dict\":\x7b\x7d\x7d\x7d"
    let link : Link Unit := fun _ state => (some (.plain 200 payload), state)
    Arguments.parse arguments = some ⟨none, none, .grade ⟨1, 2, 3, .instructor⟩ change⟩ ∧
      ¬ (5 : Float) ≤ 0 / 0 ∧
      ∃ exchange ∈ (runArguments ⟨⟨[]⟩, .empty, .empty⟩ arguments).trace link (),
        exchange.1.method = .put ∧ ∃ saved : Ledger, exchange.1.body = saved.toJson.compress ∧
          saved.manualScore "h" "c" = .ok (some 5) := by
  intro arguments change payload link
  let surroundings : Surroundings := ⟨⟨[]⟩, .empty, .empty⟩
  let target : Target := ⟨1, 2, 3, .instructor⟩
  let sync := syncFor surroundings none none target
  have parsed : Arguments.parse arguments = some ⟨none, none, .grade target change⟩ := by
    decide +kernel
  have sent : ((runArguments surroundings arguments).trace link ()).any (fun exchange =>
      exchange.1.method = .put ∧
        exchange.1.url = sync.client.baseUrl ++ target.key.propertiesPath) = true := by
    decide +kernel
  rcases List.any_eq_true.1 sent with ⟨exchange, listed, replaces⟩
  have replaces := of_decide_eq_true replaces
  rcases score_le_budget.2.2 surroundings arguments none none target change 5 link () parsed rfl
    exchange listed replaces with ⟨loaded, saved, _, body, stored, _, within⟩
  have above : ¬ (5 : Float) ≤ 0 / 0 := by
    rw [(within (0 / 0) rfl).2.1]
    decide
  exact ⟨parsed, above, exchange, listed, replaces.1, saved, body, stored⟩

end Command

end Gradebook
