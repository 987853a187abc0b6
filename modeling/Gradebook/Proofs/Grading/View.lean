import Gradebook.Proofs.Grading.Refusal
import Gradebook.Proofs.Grading.Widgets
import Mathlib.Data.List.Duplicate

namespace Gradebook

namespace Controller

/-!
# What widgets show

A widget shows the record of its cell.  The record is taken when the widget is
attached and taken again after every edit in this widget, but an edit refreshes the
widget in which it was made and no other.  Nothing in a notebook keeps several cells
from carrying one id, and then they share their entries in the ledger.

The main statement tells the two situations apart.  The widgets of a cell always show
its record in the present ledger as long as no other gradable cell carries the same
id, whatever ids the rest of the notebook repeats.  Where two do, there is a run after
which one of them shows what is no longer in the ledger.
-/

/-- The ids of the cells that get a widget, in document order. -/
def gradableIds (notebook : Notebook) : List String :=
  (gradable notebook).map Gradable.cellId

/-- Whether the widgets of a cell show its record in the ledger that is held. -/
def Current (cellId : String) (controller : Controller) : Prop :=
  ∀ entry ∈ controller.bindings, entry.2.cellId = cellId →
    ∃ ledger, controller.ledger = some ledger ∧
      ledger.record entry.2.notebook entry.2.cellId = .ok entry.2.record

/-- What is always true of the widgets, and of those of a certain cell. -/
structure Views (cellId : String) (controller : Controller) : Prop where
  /-- While a notebook is graded every gradable cell has a widget, in document order. -/
  covers : controller.mode = .grading →
    controller.bindings.map (·.2.cellId) = gradableIds controller.notebook
  current : ¬ List.Duplicate cellId (gradableIds controller.notebook) → controller.Current cellId

variable {σ : Type} {controller : Controller} {cellId : String}

/-! ## Attaching -/

theorem map_snd_attachAll (saving : Bool) (host : Host) (bindings : List Binding) :
    (attachAll saving host bindings).1.map Prod.snd = bindings := by
  induction bindings generalizing host with
  | nil => rfl
  | cons first rest inductionHypothesis =>
      simp only [attachAll, List.map_cons, inductionHypothesis]

theorem map_cellId_of_binds {notebookName : String} {ledger : Ledger} {cells : List Gradable}
    {made : List Binding} (binds : List.Forall₂ (Binds notebookName ledger) cells made) :
    made.map Binding.cellId = cells.map Gradable.cellId := by
  induction binds with
  | nil => rfl
  | cons binds _ inductionHypothesis =>
      rw [List.map_cons, List.map_cons, binds.cellId, inductionHypothesis]

section Attaches

variable {ledger : Ledger} {host : Host} {bindings : List (Nat × Binding)}
  (coherent : controller.Coherent) (attaches : controller.Attaches ledger host bindings)
include coherent attaches

/-- Entering grading mode makes one binding of each gradable cell. -/
theorem binds_of_attaches :
    List.Forall₂ (Binds controller.notebookName ledger) (gradable controller.notebook)
      (bindings.map Prod.snd) := by
  rcases attaches.made with ⟨made, binds, rfl, rfl⟩
  rw [coherent.viewed attaches.viewed, List.nil_append, map_snd_attachAll]
  exact binds

theorem map_cellId_of_attaches :
    bindings.map (·.2.cellId) = gradableIds controller.notebook := by
  have same := map_cellId_of_binds (binds_of_attaches coherent attaches)
  rw [List.map_map] at same
  exact same

/-- After entering every widget shows the present record of its cell. -/
theorem record_of_attaches {entry : Nat × Binding} (listed : entry ∈ bindings) :
    ledger.record entry.2.notebook entry.2.cellId = .ok entry.2.record := by
  rcases Json.exists_of_forall₂ (binds_of_attaches coherent attaches) entry.2
    (List.mem_map_of_mem listed) with ⟨cell, _, binds⟩
  rw [binds.notebook, binds.cellId]
  exact binds.record

end Attaches

/-! ## Editing -/

section Refreshing

variable {widget : Nat} {binding : Binding} {bindings : List (Nat × Binding)}

/-- A refreshed list differs from the old one in the binding that the widget has. -/
theorem exists_split_of_lookup (found : bindings.lookup widget = some binding)
    (record : Ledger.Record) :
    ∃ before after, bindings = before ++ (widget, binding) :: after ∧
      refresh widget record bindings = before ++ (widget, { binding with record }) :: after := by
  induction bindings with
  | nil => cases found
  | cons first rest inductionHypothesis =>
      rcases first with ⟨id, other⟩
      by_cases same : id = widget
      · subst same
        rw [List.lookup_cons, beq_self_eq_true] at found
        cases found
        exact ⟨[], rest, rfl, if_pos rfl⟩
      · rw [List.lookup_cons, beq_eq_false_iff_ne.2 (Ne.symm same)] at found
        rcases inductionHypothesis found with ⟨before, after, split, refreshed⟩
        refine ⟨(id, other) :: before, after, congrArg ((id, other) :: ·) split, ?_⟩
        rw [refresh, if_neg same, refreshed]
        rfl

theorem mem_of_lookup (found : bindings.lookup widget = some binding) :
    (widget, binding) ∈ bindings := by
  rcases exists_split_of_lookup found binding.record with ⟨before, after, split, _⟩
  rw [split]
  exact List.mem_append_right before List.mem_cons_self

theorem lookup_of_mem (nodup : (bindings.map Prod.fst).Nodup) {entry : Nat × Binding}
    (listed : entry ∈ bindings) : bindings.lookup entry.1 = some entry.2 := by
  cases found : bindings.lookup entry.1 with
  | none => exact absurd found (lookup_ne_none listed)
  | some other =>
      have same := List.inj_on_of_nodup_map nodup (mem_of_lookup found) listed rfl
      exact congrArg (fun entry => some entry.2) same

theorem mem_refresh_of_ne (found : bindings.lookup widget = some binding)
    (record : Ledger.Record) {entry : Nat × Binding} (listed : entry ∈ bindings)
    (other : entry.1 ≠ widget) : entry ∈ refresh widget record bindings := by
  rcases exists_split_of_lookup found record with ⟨before, after, split, refreshed⟩
  rw [split] at listed
  rw [refreshed]
  rcases List.mem_append.1 listed with earlier | here
  · exact List.mem_append_left _ earlier
  · rcases List.mem_cons.1 here with rfl | later
    · exact absurd rfl other
    · exact List.mem_append_right before (List.mem_cons_of_mem _ later)

/-- Beside a binding none has its widget. -/
theorem ne_of_split {before after : List (Nat × Binding)}
    (nodup : ((before ++ (widget, binding) :: after).map Prod.fst).Nodup) {entry : Nat × Binding}
    (among : entry ∈ before ++ after) : entry.1 ≠ widget := by
  rw [List.map_append, List.map_cons, List.nodup_middle, ← List.map_append] at nodup
  rintro rfl
  exact (List.nodup_cons.1 nodup).1 (List.mem_map.2 ⟨entry, among, rfl⟩)

theorem mem_refresh (nodup : (bindings.map Prod.fst).Nodup)
    (found : bindings.lookup widget = some binding) {record : Ledger.Record}
    {entry : Nat × Binding} (listed : entry ∈ refresh widget record bindings) :
    entry = (widget, { binding with record }) ∨ entry ∈ bindings ∧ entry.1 ≠ widget := by
  rcases exists_split_of_lookup found record with ⟨before, after, split, refreshed⟩
  have others : ∀ entry ∈ before ++ after, entry ∈ bindings ∧ entry.1 ≠ widget := by
    intro entry among
    refine ⟨?_, ne_of_split (split ▸ nodup) among⟩
    rw [split]
    exact List.mem_append.2 ((List.mem_append.1 among).imp_right (List.mem_cons_of_mem _))
  rw [refreshed] at listed
  rcases List.mem_append.1 listed with earlier | here
  · exact .inr (others entry (List.mem_append_left after earlier))
  · rcases List.mem_cons.1 here with same | later
    · exact .inl same
    · exact .inr (others entry (List.mem_append_right before later))

theorem map_cellId_refresh (found : bindings.lookup widget = some binding)
    {record : Ledger.Record} (about : record.cellId = binding.cellId) :
    (refresh widget record bindings).map (·.2.cellId) = bindings.map (·.2.cellId) := by
  rcases exists_split_of_lookup found record with ⟨before, after, split, refreshed⟩
  rw [refreshed, split, List.map_append, List.map_append, List.map_cons, List.map_cons]
  exact congrArg (fun cell => before.map _ ++ cell :: after.map _) about

end Refreshing

/-- Two widgets with the id of one cell make this id a repeated one. -/
theorem duplicate_of_mem {bindings : List (Nat × Binding)} {first second : Nat × Binding}
    (mem_first : first ∈ bindings) (mem_second : second ∈ bindings) (differ : first.1 ≠ second.1)
    (same : second.2.cellId = first.2.cellId) :
    List.Duplicate first.2.cellId (bindings.map (·.2.cellId)) := by
  induction bindings with
  | nil => cases mem_first
  | cons head rest inductionHypothesis =>
      have mem_map : ∀ {entry}, entry ∈ rest → entry.2.cellId ∈ rest.map (·.2.cellId) :=
        fun listed => List.mem_map.2 ⟨_, listed, rfl⟩
      rw [List.map_cons, List.duplicate_cons_iff]
      rcases List.mem_cons.1 mem_first with rfl | later_first
      · rcases List.mem_cons.1 mem_second with rfl | later_second
        · exact absurd rfl differ
        · exact .inl ⟨rfl, same ▸ mem_map later_second⟩
      · rcases List.mem_cons.1 mem_second with rfl | later_second
        · exact .inl ⟨same, mem_map later_first⟩
        · exact .inr (inductionHypothesis later_first later_second)

/-- A repeated id has two widgets. -/
theorem exists_mem_of_duplicate {bindings : List (Nat × Binding)}
    (nodup : (bindings.map Prod.fst).Nodup)
    (repeated : List.Duplicate cellId (bindings.map (·.2.cellId))) :
    ∃ first ∈ bindings, ∃ second ∈ bindings, second.1 ≠ first.1 ∧
      first.2.cellId = cellId ∧ second.2.cellId = cellId := by
  rcases List.sublist_map_iff.1 (List.duplicate_iff_sublist.1 repeated) with ⟨pair, among, same⟩
  rcases List.map_eq_cons_iff.1 same.symm with ⟨first, others, rfl, same_first, same⟩
  rcases List.map_eq_cons_iff.1 same with ⟨second, none, rfl, same_second, _⟩
  have apart : (first.1 :: second.1 :: none.map Prod.fst).Nodup :=
    (among.map Prod.fst).nodup nodup
  have mem_second : second ∈ first :: second :: none :=
    List.mem_cons_of_mem first List.mem_cons_self
  refine ⟨first, among.subset List.mem_cons_self, second, among.subset mem_second, ?_, same_first,
    same_second⟩
  intro equal
  apply (List.nodup_cons.1 apart).1
  rw [equal]
  exact List.mem_cons_self

/-! ## One operation -/

theorem current_of_nil (nothing : controller.bindings = []) : controller.Current cellId := by
  intro entry listed
  rw [nothing] at listed
  cases listed

theorem views_of_switches (coherent : controller.Coherent) (views : controller.Views cellId)
    {enabled : Bool} {fetched : List Ledger} {outcome : Except ControllerError Unit}
    {next : Controller} (switched : Switches controller enabled fetched outcome next) :
    next.Views cellId := by
  cases switched with
  | refused => exact views
  | stays present => exact views
  | leaves off opened graded => exact ⟨nofun, fun _ => current_of_nil rfl⟩
  | returns held bound attaches =>
      have covered := map_cellId_of_attaches coherent attaches
      refine ⟨fun _ => covered, fun _ entry listed _ => ⟨_, held, ?_⟩⟩
      exact record_of_attaches coherent attaches listed
  | begins missing on reachable bound attaches =>
      have covered := map_cellId_of_attaches coherent attaches
      refine ⟨fun _ => covered, fun _ entry listed _ => ⟨_, rfl, ?_⟩⟩
      exact record_of_attaches coherent attaches listed

/-- An edit of a cell refreshes its only widget, and an edit of another cell leaves
its record alone. -/
theorem views_of_edits (coherent : controller.Coherent) (nodup : controller.widgets.Nodup)
    (views : controller.Views cellId) {widget : Nat} {change : Edit}
    {outcome : Except ControllerError Ledger.Record} {next : Controller}
    (edited : Edits controller widget change outcome next) : next.Views cellId := by
  cases edited with
  | refused reason => exact views
  | @accepted binding ledger next record idle found held changed about opened graded taken =>
      have covered := views.covers graded
      refine ⟨fun _ => (map_cellId_refresh found about).trans covered, ?_⟩
      intro lone entry listed of_cell
      refine ⟨next, rfl, ?_⟩
      rcases mem_refresh nodup found listed with rfl | ⟨kept, other⟩
      · change next.record binding.notebook record.cellId = .ok record
        rw [(bound_of_lookup coherent found).1, about]
        exact taken
      · rcases views.current lone entry kept of_cell with ⟨present, again, shown⟩
        cases held.symm.trans again
        apply Ledger.Setting.record_of_apply_of_ne changed _ shown
        -- an edit of the same cell in another widget would make its id a repeated one
        intro _ same
        apply lone
        change List.Duplicate cellId (gradableIds controller.notebook)
        rw [← covered, ← of_cell]
        exact duplicate_of_mem kept (mem_of_lookup found) other same.symm

theorem views_of_begins (views : controller.Views cellId)
    {outcome : Except ControllerError SaveRequest} {next : Controller}
    (begun : Begins controller outcome next) : next.Views cellId := by
  cases begun with
  | refused => exact views
  | begins opened idle held => exact ⟨views.covers, views.current⟩

theorem views_perform {underWay : Bool} (agrees : controller.Agrees underWay)
    (views : controller.Views cellId) (link : Link σ) (state : σ) (operation : Operation) :
    (operation.perform link controller state).controller.Views cellId := by
  have coherent := agrees.coherent
  apply perform_induction coherent link state operation
  · exact views
  · exact views_of_switches coherent views
  · exact views_of_edits coherent agrees.nodup views
  · exact views_of_begins views
  · exact ⟨views.covers, views.current⟩
  · exact ⟨nofun, fun _ => current_of_nil rfl⟩

/-! ## Runs -/

theorem views_new (sync : Sync) (key : SubmissionKey) (notebookName : String)
    (notebook : Notebook) (host : Host) : (new sync key notebookName notebook host).Views cellId :=
  ⟨nofun, fun _ => current_of_nil rfl⟩

theorem views_steps (link : Link σ) {run : Run σ} {before : Bool}
    (agrees : run.controller.Agrees before) (views : run.controller.Views cellId)
    (operations : List Operation) : (run.steps link operations).controller.Views cellId := by
  induction operations generalizing run before with
  | nil => exact views
  | cons operation rest inductionHypothesis =>
      exact inductionHypothesis (agrees.perform link run.state operation)
        (views_perform agrees views link run.state operation)

/-! ## Widgets of a cell whose id is repeated -/

/-- A link that answers everything with grading properties of no notebook. -/
def bare : Link σ :=
  fun _ state => (some (.plain 200 "\x7b\x7d"), state)

theorem exists_load_bare {sync : Sync} {key : SubmissionKey}
    (allowed : sync.session.canGrade key.lecture = true) (state : σ) :
    ∃ ledger, (sync.load key).run bare state = (.ok ledger, state) := by
  have read : (Sync.loaded (some (.plain 200 "\x7b\x7d"))).isOk = true := by decide +kernel
  rcases Outcome.exists_of_isOk read with ⟨ledger, read⟩
  refine ⟨ledger, ?_⟩
  rw [Sync.load_eq, Sync.authorize, if_pos allowed]
  simp only [Dialogue.run, bare, read]

/-- Whoever may grade can enter grading mode. -/
theorem mode_of_bare {sync : Sync} {key : SubmissionKey}
    (allowed : sync.session.canGrade key.lecture = true) (notebookName : String)
    (notebook : Notebook) (host : Host) (state : σ) :
    ((Run.start (new sync key notebookName notebook host) state).steps bare
      [.setGradingMode true]).controller.mode = .grading := by
  rcases exists_load_bare allowed state with ⟨ledger, loaded⟩
  rcases exists_enterWith (coherent_new sync key notebookName notebook host) rfl rfl ledger
    with ⟨_, _, entered, _⟩
  have switched : ((new sync key notebookName notebook host).setGradingMode true).run bare state =
      ((new sync key notebookName notebook host).enterWith ledger, state) := by
    change ((sync.load key) >>= _ : Dialogue _).run bare state = _
    rw [Dialogue.run_bind, loaded]
    rfl
  change (((new sync key notebookName notebook host).setGradingMode true).run bare
    state).1.2.mode = .grading
  rw [switched, entered]

/-- A comment that is put into one widget is missing in another one of the same cell. -/
theorem exists_stale {underWay : Bool} (agrees : controller.Agrees underWay)
    (views : controller.Views cellId) (graded : controller.mode = .grading)
    (idle : controller.saving = false)
    (repeated : List.Duplicate cellId (gradableIds controller.notebook)) :
    ∃ widget change, ¬ (controller.edit widget change).2.Current cellId := by
  have coherent := agrees.coherent
  rw [← views.covers graded] at repeated
  rcases exists_mem_of_duplicate agrees.nodup repeated
    with ⟨first, mem_first, second, mem_second, differ, of_first, of_second⟩
  let text := second.2.record.comment ++ "+"
  refine ⟨first.1, .comment text, ?_⟩
  have plain : (Edit.comment text).isScore = false := rfl
  rcases exists_edit coherent graded idle mem_first plain with ⟨record, next, made⟩
  have edited := edits coherent first.1 (.comment text)
  rw [made] at edited ⊢
  intro current
  cases edited with
  | @accepted binding ledger later record _ found held changed about opened graded taken =>
      cases found.symm.trans (lookup_of_mem agrees.nodup mem_first)
      rcases bound_of_lookup coherent found with ⟨_, cell, listed, same⟩
      have ensured := coherent.ensured ledger held cell listed
      rw [← same] at ensured
      rcases Ledger.record_of_ensured ensured with ⟨earlier, taken, _⟩
      -- the comment is in the record of the cell, but the second widget was left alone
      have written := Ledger.Setting.record_of_apply changed taken
      have kept := mem_refresh_of_ne found record mem_second differ
      rcases current second kept of_second with ⟨_, ⟨rfl⟩, shown⟩
      rw [(coherent.bound second mem_second).1, of_second, ← of_first, written] at shown
      have comments : text = second.2.record.comment :=
        congrArg Ledger.Record.comment (Except.ok.inj shown)
      have lengths := congrArg String.length comments
      rw [String.length_append] at lengths
      exact absurd lengths (by simp)

/-- On a host that hands out every id once, the widgets of a cell always show its
record in the present ledger if no other gradable cell carries its id.  If one does, a
session that may grade has a run after which they do not. -/
theorem current_of_lone (sync : Sync) (key : SubmissionKey) (notebookName : String)
    (notebook : Notebook) {issue : Nat → Nat} (fresh : Function.Injective issue) (state : σ)
    (cellId : String) :
    let start := Run.start (new sync key notebookName notebook (.ofIssue issue)) state
    (¬ List.Duplicate cellId (gradableIds notebook) →
      ∀ (link : Link σ) (operations : List Operation),
        (start.steps link operations).controller.Current cellId) ∧
    (sync.session.canGrade key.lecture = true → List.Duplicate cellId (gradableIds notebook) →
      ∃ (link : Link σ) (operations : List Operation),
        ¬ (start.steps link operations).controller.Current cellId) := by
  intro start
  have agrees : start.controller.Agrees false := agrees_new sync key notebookName notebook fresh
  have views : start.controller.Views cellId :=
    views_new sync key notebookName notebook (.ofIssue issue)
  have same : ∀ link operations, (start.steps link operations).controller.notebook = notebook :=
    fun link operations => congrArg (·.2.2.2)
      (explains_run sync key notebookName notebook (.ofIssue issue) link state operations).1
  constructor
  · intro lone link operations
    apply (views_steps link agrees views operations).current
    rw [same]
    exact lone
  · intro allowed repeated
    have graded := mode_of_bare allowed notebookName notebook (.ofIssue issue) state
    have later := agrees_steps bare agrees [.setGradingMode true]
    have covered := views_steps bare agrees views [.setGradingMode true]
    have idle := later.saving (later.coherent.opened graded)
    rw [← same bare [.setGradingMode true]] at repeated
    rcases exists_stale later covered graded idle repeated with ⟨widget, change, stale⟩
    exact ⟨bare, [.setGradingMode true, .edit widget change], stale⟩

/-- Two cells with the id `c`: a comment that is put into the widget of one is missing
in the widget of the other. -/
theorem current_of_lone_of_twins :
    let data : Json := .object
      [("nbgrader", .object [("grade", .bool true), ("grade_id", .string "c")])]
    let cell : Cell := ⟨none, .markdown, data, .text ""⟩
    let sync : Sync := ⟨⟨"", none⟩, ⟨"t", [(1, .tutor)]⟩⟩
    Function.Injective (id : Nat → Nat) ∧ sync.session.canGrade 1 = true ∧
      List.Duplicate "c" (gradableIds ⟨[cell, cell], .null⟩) ∧
      ∃ (link : Link Unit) (operations : List Operation),
        ¬ ((Run.start (new sync ⟨1, 2, 3⟩ "h" ⟨[cell, cell], .null⟩ (.ofIssue id)) ()).steps link
          operations).controller.Current "c" := by
  intro data cell sync
  have allowed : sync.session.canGrade 1 = true := rfl
  have repeated : List.Duplicate "c" (gradableIds ⟨[cell, cell], .null⟩) := by decide
  exact ⟨Function.injective_id, allowed, repeated,
    (current_of_lone sync ⟨1, 2, 3⟩ "h" ⟨[cell, cell], .null⟩ Function.injective_id () "c").2
      allowed repeated⟩

end Controller

end Gradebook
