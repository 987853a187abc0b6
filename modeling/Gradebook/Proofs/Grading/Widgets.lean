import Gradebook.Proofs.Grading.Log

namespace Gradebook

/-!
# Widgets at the host

The host knows nothing of modes and saves; it displays what it was told to.  From
the calls alone it can be said which widgets it displays and whether they take
input, which it ever attached, and which it detached.

Here it is proved that this is always what the controller means.  Provided that the
host hands out every id once, the widgets displayed are those of the bindings, in
their order, and they take input just when no save is under way.  When grading ends
all of them are detached, no widget is detached twice, and what was detached is never
edited again.
-/

/-! ## What the host displays -/

namespace HostCall

/-- The widgets displayed after a call, each with whether it takes input.  A widget
takes input when it is attached. -/
def display (shown : List (Nat × Bool)) : HostCall → List (Nat × Bool)
  | .attach widget _ => shown ++ [(widget, true)]
  | .detach widget => shown.filter fun entry => entry.1 ≠ widget
  | .enable widget enabled =>
    shown.map fun entry => (entry.1, if entry.1 = widget then enabled else entry.2)

def attached? : HostCall → Option Nat
  | .attach widget _ => some widget
  | .detach _ | .enable _ _ => none

def detached? : HostCall → Option Nat
  | .detach widget => some widget
  | .attach _ _ | .enable _ _ => none

end HostCall

namespace Host

/-- The widgets that are displayed, each with whether it takes input. -/
def shown (host : Host) : List (Nat × Bool) :=
  host.calls.foldl HostCall.display []

/-- The widgets that were ever attached, in order. -/
def issued (host : Host) : List Nat :=
  host.calls.filterMap HostCall.attached?

/-- The widgets that were detached, in order. -/
def detached (host : Host) : List Nat :=
  host.calls.filterMap HostCall.detached?

variable {host : Host}

/-! Every call adds its own to what is displayed, was attached, or was detached. -/

@[simp]
theorem shown_attach (binding : Binding) :
    (host.attach binding).2.shown = host.shown ++ [(host.issue host.attached, true)] :=
  List.foldl_append

@[simp]
theorem shown_detach (widget : Nat) :
    (host.detach widget).shown = host.shown.filter fun entry => entry.1 ≠ widget :=
  List.foldl_append

@[simp]
theorem shown_enable (widget : Nat) (enabled : Bool) :
    (host.enable widget enabled).shown =
      host.shown.map fun entry => (entry.1, if entry.1 = widget then enabled else entry.2) :=
  List.foldl_append

@[simp]
theorem issued_attach (binding : Binding) :
    (host.attach binding).2.issued = host.issued ++ [host.issue host.attached] :=
  List.filterMap_append

@[simp]
theorem issued_detach (widget : Nat) : (host.detach widget).issued = host.issued :=
  List.filterMap_append.trans (List.append_nil _)

@[simp]
theorem issued_enable (widget : Nat) (enabled : Bool) :
    (host.enable widget enabled).issued = host.issued :=
  List.filterMap_append.trans (List.append_nil _)

@[simp]
theorem detached_attach (binding : Binding) :
    (host.attach binding).2.detached = host.detached :=
  List.filterMap_append.trans (List.append_nil _)

@[simp]
theorem detached_detach (widget : Nat) :
    (host.detach widget).detached = host.detached ++ [widget] :=
  List.filterMap_append

@[simp]
theorem detached_enable (widget : Nat) (enabled : Bool) :
    (host.enable widget enabled).detached = host.detached :=
  List.filterMap_append.trans (List.append_nil _)

/-! ## Hosts in agreement with a list of widgets -/

/-- A host that displays the given widgets, all of them enabled or none, and has
detached all others that it ever attached. -/
structure Displays (host : Host) (enabled : Bool) (detached widgets : List Nat) : Prop where
  fresh : Function.Injective host.issue
  /-- The ids are handed out one after the other. -/
  counted : host.issued = (List.range host.attached).map host.issue
  parted : host.issued = detached ++ widgets
  left : host.detached = detached
  shown : host.shown = widgets.map fun widget => (widget, enabled)

theorem displays_ofIssue {issue : Nat → Nat} (fresh : Function.Injective issue) (enabled : Bool) :
    (ofIssue issue).Displays enabled [] [] :=
  ⟨fresh, rfl, rfl, rfl, rfl⟩

namespace Displays

variable {enabled : Bool} {detached widgets : List Nat}

/-- No widget was attached twice. -/
theorem nodup (displays : host.Displays enabled detached widgets) : (detached ++ widgets).Nodup := by
  rw [← displays.parted, displays.counted]
  exact List.nodup_range.map displays.fresh

/-- Where nothing is displayed, it does not matter what is enabled. -/
theorem of_nil (displays : host.Displays enabled detached []) (other : Bool) :
    host.Displays other detached [] :=
  ⟨displays.fresh, displays.counted, displays.parted, displays.left, displays.shown⟩

/-! ### Attaching -/

/-- A widget that is attached takes input unless a save is under way. -/
theorem attach {saving : Bool} (displays : host.Displays (!saving) detached widgets)
    (binding : Binding) :
    (if saving then (host.attach binding).2.enable (host.attach binding).1 false
      else (host.attach binding).2).Displays (!saving) detached
        (widgets ++ [(host.attach binding).1]) := by
  have counted : host.issued ++ [host.issue host.attached] =
      (List.range (host.attached + 1)).map host.issue := by
    rw [List.range_succ, List.map_append, displays.counted]
    rfl
  have parted : host.issued ++ [host.issue host.attached] =
      detached ++ (widgets ++ [host.issue host.attached]) := by
    rw [displays.parted, List.append_assoc]
  cases saving with
  | false =>
      refine ⟨displays.fresh, (issued_attach binding).trans counted,
        (issued_attach binding).trans parted, (detached_attach binding).trans displays.left, ?_⟩
      simp only [Bool.false_eq_true, if_false, shown_attach, displays.shown, List.map_append]
      rfl
  | true =>
      simp only [if_true]
      refine ⟨displays.fresh, ?_, ?_, ?_, ?_⟩
      · rw [issued_enable, issued_attach]
        exact counted
      · rw [issued_enable, issued_attach]
        exact parted
      · rw [detached_enable, detached_attach, displays.left]
      · -- the widgets before it are disabled already
        rw [shown_enable, shown_attach, displays.shown, List.map_append, List.map_append,
          List.map_map]
        refine congrArg₂ (· ++ ·) (List.map_congr_left fun widget listed => ?_) ?_
        · simp only [Function.comp_apply, Bool.not_true, ite_self]
        · exact congrArg (fun enabled => [(host.issue host.attached, enabled)]) (if_pos rfl)

theorem attachAll {saving : Bool} (displays : host.Displays (!saving) detached widgets)
    (bindings : List Binding) :
    (Controller.attachAll saving host bindings).2.Displays (!saving) detached
      (widgets ++ (Controller.attachAll saving host bindings).1.map Prod.fst) := by
  induction bindings generalizing host widgets with
  | nil =>
      rw [Controller.attachAll, List.map_nil, List.append_nil]
      exact displays
  | cons first rest inductionHypothesis =>
      have attached := inductionHypothesis (displays.attach first)
      rw [List.append_assoc] at attached
      exact attached

/-! ### Detaching and enabling -/

theorem detach {widget : Nat} (displays : host.Displays enabled detached (widget :: widgets)) :
    (host.detach widget).Displays enabled (detached ++ [widget]) widgets where
  fresh := displays.fresh
  counted := (issued_detach widget).trans displays.counted
  parted := by
    rw [issued_detach, displays.parted, List.append_assoc]
    rfl
  left := by
    rw [detached_detach, displays.left]
  shown := by
    have once : widget ∉ widgets := (List.nodup_cons.1 (List.nodup_append.1 displays.nodup).2.1).1
    rw [shown_detach, displays.shown, List.map_cons, List.filter_cons_of_neg (by simp)]
    apply List.filter_eq_self.2
    intro entry listed
    rcases List.mem_map.1 listed with ⟨other, among, rfl⟩
    exact decide_eq_true fun same => once (same ▸ among)

theorem detachAll {bindings : List (Nat × Binding)}
    (displays : host.Displays enabled detached (bindings.map Prod.fst)) :
    (bindings.foldl (fun host (widget, _) => host.detach widget) host).Displays enabled
      (detached ++ bindings.map Prod.fst) [] := by
  induction bindings generalizing host detached with
  | nil =>
      rw [List.map_nil, List.append_nil]
      exact displays
  | cons first rest inductionHypothesis =>
      have left := inductionHypothesis displays.detach
      rw [List.append_assoc] at left
      exact left

theorem shown_enableAll (bindings : List (Nat × Binding)) (enabled : Bool) :
    (bindings.foldl (fun host (widget, _) => host.enable widget enabled) host).shown =
      host.shown.map fun entry =>
        (entry.1, if entry.1 ∈ bindings.map Prod.fst then enabled else entry.2) := by
  induction bindings generalizing host with
  | nil => simp
  | cons first rest inductionHypothesis =>
      rw [List.foldl_cons, inductionHypothesis, shown_enable, List.map_map]
      refine List.map_congr_left fun entry listed => Prod.ext rfl ?_
      simp only [Function.comp_apply, List.map_cons, List.mem_cons]
      by_cases later : entry.1 ∈ rest.map Prod.fst
      · rw [if_pos later, if_pos (.inr later)]
      · simp only [later, or_false, if_false]

/-- Whether widgets take input is nothing that was attached or detached. -/
theorem enableAll_eq (bindings : List (Nat × Binding)) (enabled : Bool) :
    let enabling := bindings.foldl (fun host (widget, _) => host.enable widget enabled) host
    enabling.issue = host.issue ∧ enabling.attached = host.attached ∧
      enabling.issued = host.issued ∧ enabling.detached = host.detached := by
  induction bindings generalizing host with
  | nil => exact ⟨rfl, rfl, rfl, rfl⟩
  | cons first rest inductionHypothesis =>
      have later := @inductionHypothesis (host.enable first.1 enabled)
      rw [issued_enable, detached_enable] at later
      exact later

theorem enableAll {bindings : List (Nat × Binding)}
    (displays : host.Displays enabled detached (bindings.map Prod.fst)) (other : Bool) :
    (bindings.foldl (fun host (widget, _) => host.enable widget other) host).Displays other
      detached (bindings.map Prod.fst) := by
  rcases @enableAll_eq host bindings other with ⟨issue, attached, issued, left⟩
  refine ⟨issue ▸ displays.fresh, ?_, issued.trans displays.parted, left.trans displays.left, ?_⟩
  · rw [issued, issue, attached]
    exact displays.counted
  · rw [shown_enableAll, displays.shown, List.map_map]
    refine List.map_congr_left fun widget listed => Prod.ext rfl ?_
    exact if_pos listed

end Displays

end Host

namespace Controller

variable {σ : Type} {controller : Controller}

/-! ## Saves under way -/

/-- Whether a save is under way after an operation.  A request begins it, and its
result ends it. -/
def Operation.underWay (before : Bool) : Operation → Answer → Bool
  | .beginSave, .begun (.ok _) => true
  | .completeSave _, _ => false
  | _, _ => before

/-- Whether a save is under way after operations. -/
def underWay (link : Link σ) : Run σ → Bool → List Operation → Bool
  | _, before, [] => before
  | run, before, operation :: rest =>
    let performed := operation.perform link run.controller run.state
    underWay link (run.step link operation) (operation.underWay before performed.answer) rest

/-! ## Hosts in agreement with a controller -/

/-- The widgets of a controller, in document order. -/
def widgets (controller : Controller) : List Nat :=
  controller.bindings.map Prod.fst

theorem widgets_of_nil {controller : Controller} (nothing : controller.bindings = []) :
    controller.widgets = [] :=
  congrArg (List.map Prod.fst) nothing

/-- The widgets that an operation detaches: all when it ends the grading session, and
else none. -/
def Operation.releases (controller : Controller) : Operation → List Nat
  | .setGradingMode false | .dispose => controller.widgets
  | .setGradingMode true | .edit _ _ | .beginSave | .completeSave _ => []

/-- A controller whose host displays its widgets, enabled unless a save is under way. -/
structure Agrees (controller : Controller) (underWay : Bool) : Prop where
  coherent : controller.Coherent
  displays :
    controller.host.Displays (!underWay) controller.host.detached controller.widgets
  saving : controller.disposed = false → controller.saving = underWay

theorem agrees_new (sync : Sync) (key : SubmissionKey) (notebookName : String)
    (notebook : Notebook) {issue : Nat → Nat} (fresh : Function.Injective issue) :
    (new sync key notebookName notebook (.ofIssue issue)).Agrees false :=
  ⟨coherent_new sync key notebookName notebook (.ofIssue issue), Host.displays_ofIssue fresh true,
    fun _ => rfl⟩

theorem bindings_of_disposed (coherent : controller.Coherent)
    (closed : controller.disposed = true) : controller.bindings = [] := by
  cases mode : controller.mode with
  | viewing => exact coherent.viewed mode
  | grading => exact absurd closed (Bool.eq_false_iff.1 (coherent.opened mode))

theorem bindings_of_leaving (coherent : controller.Coherent) {fetched : List Ledger}
    {outcome : Except ControllerError Unit} {next : Controller}
    (switched : Switches controller false fetched outcome next) : next.bindings = [] := by
  cases switched with
  | refused closed => exact bindings_of_disposed coherent (closed rfl)
  | stays present absent => exact coherent.viewed (absent rfl)
  | leaves off opened graded => rfl
  | returns held bound attaches on => cases on
  | begins missing on reachable bound attaches => cases on

theorem bindings_dispose (coherent : controller.Coherent) : controller.dispose.bindings = [] := by
  unfold dispose
  split_ifs with closed
  · exact bindings_of_disposed coherent closed
  · rfl

theorem map_fst_refresh (widget : Nat) (record : Ledger.Record) (bindings : List (Nat × Binding)) :
    (refresh widget record bindings).map Prod.fst = bindings.map Prod.fst := by
  induction bindings with
  | nil => rfl
  | cons first rest inductionHypothesis =>
      simp only [refresh]
      split_ifs
      · rfl
      · rw [List.map_cons, List.map_cons, inductionHypothesis]

theorem mem_widgets_of_edits {widget : Nat} {change : Edit} {record : Ledger.Record}
    {next : Controller} (edited : Edits controller widget change (.ok record) next) :
    widget ∈ controller.widgets := by
  cases edited with
  | accepted idle found held changed about opened graded taken =>
      rcases List.lookup_eq_some_iff.1 found with ⟨before, after, split, _⟩
      rw [widgets, split, List.map_append]
      exact List.mem_append_right _ List.mem_cons_self

/-! ## One operation -/

theorem standing_of_switches {enabled : Bool} {fetched : List Ledger}
    {outcome : Except ControllerError Unit} {next : Controller}
    (switched : Switches controller enabled fetched outcome next) :
    next.saving = controller.saving ∧ next.disposed = controller.disposed := by
  cases switched <;> exact ⟨rfl, rfl⟩

theorem standing_of_edits {widget : Nat} {change : Edit}
    {outcome : Except ControllerError Ledger.Record} {next : Controller}
    (edited : Edits controller widget change outcome next) :
    next.saving = controller.saving ∧ next.disposed = controller.disposed := by
  cases edited <;> exact ⟨rfl, rfl⟩

namespace Agrees

variable {underWay : Bool} (agrees : controller.Agrees underWay)
include agrees

theorem nodup : controller.widgets.Nodup :=
  (List.nodup_append.1 agrees.displays.nodup).2.1

theorem displays_of_attaches {ledger : Ledger} {host : Host} {bindings : List (Nat × Binding)}
    (attaches : controller.Attaches ledger host bindings) :
    host.Displays (!underWay) controller.host.detached (bindings.map Prod.fst) := by
  rcases attaches.made with ⟨made, _, rfl, rfl⟩
  rw [List.map_append]
  have displays := agrees.displays
  rw [← agrees.saving attaches.opened] at displays ⊢
  exact displays.attachAll made

theorem displays_of_entering {fetched : List Ledger} {outcome : Except ControllerError Unit}
    {next : Controller} (switched : Switches controller true fetched outcome next) :
    next.host.Displays (!underWay) controller.host.detached next.widgets := by
  cases switched with
  | refused => exact agrees.displays
  | stays present => exact agrees.displays
  | leaves off opened graded => cases off
  | returns held bound attaches => exact agrees.displays_of_attaches attaches
  | begins missing on reachable bound attaches => exact agrees.displays_of_attaches attaches

/-- Where no widgets are, all of them are detached. -/
theorem displays_of_nil (nothing : controller.bindings = []) :
    controller.host.Displays (!underWay) (controller.host.detached ++ controller.widgets) [] := by
  have displays := agrees.displays
  rw [widgets_of_nil nothing] at displays ⊢
  rw [List.append_nil]
  exact displays

theorem displays_of_leaving {fetched : List Ledger} {outcome : Except ControllerError Unit}
    {next : Controller} (switched : Switches controller false fetched outcome next) :
    next.host.Displays (!underWay) (controller.host.detached ++ controller.widgets) [] := by
  cases switched with
  | refused closed =>
      exact agrees.displays_of_nil (bindings_of_disposed agrees.coherent (closed rfl))
  | stays present absent => exact agrees.displays_of_nil (agrees.coherent.viewed (absent rfl))
  | leaves off opened graded => exact agrees.displays.detachAll
  | returns held bound attaches on => cases on
  | begins missing on reachable bound attaches => cases on

theorem displays_dispose :
    controller.dispose.host.Displays (!underWay)
      (controller.host.detached ++ controller.widgets) [] := by
  unfold dispose
  split_ifs with closed
  · exact agrees.displays_of_nil (bindings_of_disposed agrees.coherent closed)
  · exact agrees.displays.detachAll

theorem displays_of_edits {widget : Nat} {change : Edit}
    {outcome : Except ControllerError Ledger.Record} {next : Controller}
    (edited : Edits controller widget change outcome next) :
    next.host.Displays (!underWay) controller.host.detached next.widgets := by
  cases edited with
  | refused reason => exact agrees.displays
  | accepted idle found held changed about opened graded taken =>
      rw [widgets, map_fst_refresh]
      exact agrees.displays

theorem displays_of_begins {outcome : Except ControllerError SaveRequest} {next : Controller}
    (begun : Begins controller outcome next) :
    next.host.Displays (!Operation.underWay underWay .beginSave (.begun outcome))
      controller.host.detached next.widgets := by
  cases begun with
  | refused => exact agrees.displays
  | begins opened idle held => exact agrees.displays.enableAll false

theorem displays_completeSave (result : Except SyncError Unit) :
    (controller.completeSave result).2.host.Displays true controller.host.detached
      (controller.completeSave result).2.widgets := by
  unfold completeSave
  split_ifs with closed
  · -- the result is dropped, and there is nothing left to enable
    have displays := agrees.displays
    rw [widgets_of_nil (bindings_of_disposed agrees.coherent closed)] at displays ⊢
    exact displays.of_nil true
  · exact agrees.displays.enableAll true

/-- After every operation the host displays the widgets that are left, and those of a
session that ended are detached. -/
theorem displays_perform (link : Link σ) (state : σ) (operation : Operation) :
    let performed := operation.perform link controller state
    performed.controller.host.Displays (!operation.underWay underWay performed.answer)
      (controller.host.detached ++ operation.releases controller)
      performed.controller.widgets := by
  intro performed
  have coherent := agrees.coherent
  cases operation with
  | setGradingMode enabled =>
      have switched := switches coherent link enabled state
      cases enabled with
      | true =>
          rw [Operation.releases, List.append_nil]
          exact agrees.displays_of_entering switched
      | false =>
          have none : performed.controller.widgets = [] :=
            widgets_of_nil (bindings_of_leaving coherent switched)
          rw [none]
          exact agrees.displays_of_leaving switched
  | edit widget change =>
      rw [Operation.releases, List.append_nil]
      exact agrees.displays_of_edits (edits coherent widget change)
  | beginSave =>
      rw [Operation.releases, List.append_nil]
      exact agrees.displays_of_begins (begins controller)
  | completeSave result =>
      rw [Operation.releases, List.append_nil]
      exact agrees.displays_completeSave result
  | dispose =>
      have none : performed.controller.widgets = [] := widgets_of_nil (bindings_dispose coherent)
      rw [none]
      exact agrees.displays_dispose

/-- The controller knows whether a save is under way, until it is disposed of. -/
theorem saving_perform (link : Link σ) (state : σ) (operation : Operation) :
    let performed := operation.perform link controller state
    performed.controller.disposed = false →
      performed.controller.saving = operation.underWay underWay performed.answer := by
  intro performed opened
  cases operation with
  | setGradingMode enabled =>
      have same := standing_of_switches (switches agrees.coherent link enabled state)
      exact same.1.trans (agrees.saving (same.2.symm.trans opened))
  | edit widget change =>
      have same := standing_of_edits (edits agrees.coherent widget change)
      exact same.1.trans (agrees.saving (same.2.symm.trans opened))
  | beginSave =>
      have begun := begins controller
      change controller.beginSave.2.disposed = false at opened
      change controller.beginSave.2.saving =
        Operation.underWay underWay .beginSave (.begun controller.beginSave.1)
      generalize controller.beginSave.1 = outcome, controller.beginSave.2 = next at begun opened ⊢
      cases begun with
      | refused => exact agrees.saving opened
      | begins _ idle held => rfl
  | completeSave result =>
      change (controller.completeSave result).2.disposed = false at opened
      change (controller.completeSave result).2.saving = false
      unfold completeSave at opened ⊢
      split_ifs at opened ⊢ with closed
      · exact absurd closed (Bool.eq_false_iff.1 opened)
      · rfl
  | dispose =>
      change controller.dispose.disposed = false at opened
      unfold dispose at opened
      split_ifs at opened with closed
      exact absurd closed (Bool.eq_false_iff.1 opened)

theorem perform (link : Link σ) (state : σ) (operation : Operation) :
    let performed := operation.perform link controller state
    performed.controller.Agrees (operation.underWay underWay performed.answer) := by
  intro performed
  have displays := agrees.displays_perform link state operation
  refine ⟨coherent_perform agrees.coherent link state operation, ?_,
    agrees.saving_perform link state operation⟩
  rw [displays.left]
  exact displays

/-- An edit in a widget that was detached is refused. -/
theorem exists_error_of_detached {widget : Nat} (gone : widget ∈ controller.host.detached)
    (change : Edit) : ∃ error, (controller.edit widget change).1 = .error error := by
  have edited := edits agrees.coherent widget change
  cases made : (controller.edit widget change).1 with
  | error error => exact ⟨error, rfl⟩
  | ok record =>
      rw [made] at edited
      have apart := (List.nodup_append.1 agrees.displays.nodup).2.2
      exact absurd rfl (apart widget gone widget (mem_widgets_of_edits edited))

end Agrees

/-! ## Runs -/

theorem agrees_steps (link : Link σ) {run : Run σ} {before : Bool}
    (agrees : run.controller.Agrees before) (operations : List Operation) :
    (run.steps link operations).controller.Agrees (underWay link run before operations) := by
  induction operations generalizing run before with
  | nil => exact agrees
  | cons operation rest inductionHypothesis =>
      exact inductionHypothesis (agrees.perform link run.state operation)

/-- What was detached stays so. -/
theorem prefix_detached_steps (link : Link σ) {run : Run σ} {before : Bool}
    (agrees : run.controller.Agrees before) (operations : List Operation) :
    run.controller.host.detached <+: (run.steps link operations).controller.host.detached := by
  induction operations generalizing run before with
  | nil => exact List.prefix_refl _
  | cons operation rest inductionHypothesis =>
      have left := (agrees.displays_perform link run.state operation).left
      have further : run.controller.host.detached <+:
          (run.step link operation).controller.host.detached :=
        ⟨_, left.symm⟩
      exact further.trans (inductionHypothesis (agrees.perform link run.state operation))

/-- In every run on a host that hands out every id once, the widgets displayed are
those of the bindings, each once, and they take input just when no save is under way.
There are widgets only in grading mode of a view that is open, and grading mode has a
ledger.  An operation detaches the widgets of the session that it ends and no others,
so that every widget ever attached is detached once or still there.  Leaving grading
mode and disposal end the session.  What was detached is never edited again. -/
theorem shown_eq_widgets (sync : Sync) (key : SubmissionKey) (notebookName : String)
    (notebook : Notebook) {issue : Nat → Nat} (fresh : Function.Injective issue)
    (link : Link σ) (state : σ) (operations : List Operation) :
    let start := Run.start (new sync key notebookName notebook (.ofIssue issue)) state
    let run := start.steps link operations
    let controller := run.controller
    controller.host.shown =
        controller.widgets.map (fun widget => (widget, !underWay link start false operations)) ∧
      controller.widgets.Nodup ∧
      (controller.bindings ≠ [] → controller.mode = .grading ∧ controller.disposed = false) ∧
      (controller.mode = .grading → controller.ledger.isSome) ∧
      controller.host.issued = controller.host.detached ++ controller.widgets ∧
      controller.host.issued.Nodup ∧
      (∀ operation : Operation,
        let next := (operation.perform link controller run.state).controller
        next.host.detached = controller.host.detached ++ operation.releases controller ∧
          (operation = .setGradingMode false ∨ operation = .dispose → next.bindings = [])) ∧
      ∀ widget ∈ controller.host.detached, ∀ later change,
        ∃ error, ((run.steps link later).controller.edit widget change).1 = .error error := by
  intro start run controller
  have agrees : controller.Agrees (underWay link start false operations) :=
    agrees_steps link (agrees_new sync key notebookName notebook fresh) operations
  have coherent := agrees.coherent
  have displays := agrees.displays
  have issued : controller.host.issued.Nodup := by
    rw [displays.parted]
    exact displays.nodup
  refine ⟨displays.shown, agrees.nodup, ?_, coherent.graded, displays.parted, issued, ?_, ?_⟩
  · intro attached
    cases mode : controller.mode with
    | viewing => exact absurd (coherent.viewed mode) attached
    | grading => exact ⟨rfl, coherent.opened mode⟩
  · intro operation
    refine ⟨(agrees.displays_perform link run.state operation).left, ?_⟩
    rintro (rfl | rfl)
    · exact bindings_of_leaving coherent (switches coherent link false run.state)
    · exact bindings_dispose coherent
  · intro widget gone later change
    have still := (prefix_detached_steps link agrees later).subset gone
    exact (agrees_steps link agrees later).exists_error_of_detached still change

/-- A grader leaves while a save is under way and comes back.  The cell then has a new
widget, which takes no input yet, and the old one stays detached. -/
theorem shown_eq_widgets_of_return :
    let link : Link Unit := fun _ state => (some (.plain 200 "\x7b\x7d"), state)
    let data : Json := .object
      [("nbgrader", .object [("grade", .bool true), ("grade_id", .string "c")])]
    let notebook : Notebook := ⟨[⟨none, .markdown, data, .text ""⟩], .null⟩
    let sync : Sync := ⟨⟨"", none⟩, ⟨"t", [(1, .tutor)]⟩⟩
    let run := (Run.start (new sync ⟨1, 2, 3⟩ "h" notebook (.ofIssue id)) ()).steps link
      [.setGradingMode true, .beginSave, .setGradingMode false, .setGradingMode true]
    Function.Injective (id : Nat → Nat) ∧ run.controller.host.shown = [(1, false)] ∧
      ∀ later change, ∃ error,
        ((run.steps link later).controller.edit 0 change).1 = .error error := by
  intro link data notebook sync run
  have shown : run.controller.host.shown = [(1, false)] := by decide +kernel
  have gone : 0 ∈ run.controller.host.detached := by decide +kernel
  have law := shown_eq_widgets sync ⟨1, 2, 3⟩ "h" notebook Function.injective_id link ()
    [.setGradingMode true, .beginSave, .setGradingMode false, .setGradingMode true]
  rcases law with ⟨_, _, _, _, _, _, _, refused⟩
  exact ⟨Function.injective_id, shown, refused 0 gone⟩

end Controller

end Gradebook
