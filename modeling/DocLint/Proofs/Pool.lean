import Mathlib.Data.List.Induction
import Mathlib.Data.List.Nodup
import DocLint.Linter

/-!
# Checking files on a pool of workers

Files are checked by workers that share nothing but the tree, which they only read. Every task has a
slot of its own for its result, so the order in which tasks are completed leaves no trace in the
slots: once all of them are filled, they hold the results in the order of the tasks. Sorting these
into reports and failures is then the same as checking the files one after the other.
-/

namespace DocLint

/-! ## Pools -/

namespace Pool

/-- Where a task stands. -/
inductive Slot (β : Type) where
  | waiting
  | running
  | done (result : β)

section

variable {α β : Type} (work : α → β) (tasks : List α)

/-- What some worker can do: take up a task that waits, or leave the result of a task that it has
taken up. The label holds the position of a task that is completed. -/
inductive Step : List (Slot β) → List Nat → List (Slot β) → Prop
  | takeUp {slots : List (Slot β)} {i : Nat} (hslot : slots[i]? = some .waiting) :
      Step slots [] (slots.set i .running)
  | complete {slots : List (Slot β)} {i : Nat} {x : α} (hslot : slots[i]? = some .running)
      (htask : tasks[i]? = some x) : Step slots [i] (slots.set i (.done (work x)))

/-- The slots that a pool can come to, with the tasks completed so far in the order of their
completion. Any number of tasks may be running at once. -/
inductive Runs : List Nat → List (Slot β) → Prop
  | start : Runs [] (List.replicate tasks.length .waiting)
  | step {order completed : List Nat} {slots slots' : List (Slot β)} (hrun : Runs order slots)
      (hstep : Step work tasks slots completed slots') : Runs (order ++ completed) slots'

/-- What holds all along a run: each task has its slot, and the slots with a result are those of the
completed tasks, each with the result of its own task. -/
structure Sound (order : List Nat) (slots : List (Slot β)) : Prop where
  length : slots.length = tasks.length
  nodup : order.Nodup
  done_of_mem : ∀ i ∈ order, ∃ x, tasks[i]? = some x ∧ slots[i]? = some (.done (work x))
  mem_of_done : ∀ i r, slots[i]? = some (.done r) → i ∈ order

end

variable {α β : Type} {work : α → β} {tasks : List α} {order completed : List Nat}
  {slots slots' : List (Slot β)}

theorem Sound.ne_of_mem (h : Sound work tasks order slots) {i j : Nat} (hj : j ∈ order)
    {slot : Slot β} (hslot : slots[i]? = some slot) (hopen : ∀ r, slot ≠ .done r) : i ≠ j := by
  rintro rfl
  obtain ⟨x, -, hx⟩ := h.done_of_mem i hj
  rw [hslot] at hx
  exact hopen _ (Option.some.inj hx)

theorem Sound.step (h : Sound work tasks order slots)
    (hstep : Step work tasks slots completed slots') :
    Sound work tasks (order ++ completed) slots' := by
  cases hstep with
  | @takeUp i hslot =>
    -- No slot gets a result, and the one that changes had none.
    rw [List.append_nil]
    refine ⟨by rw [List.length_set, h.length], h.nodup, ?_, ?_⟩
    · intro j hj
      rw [List.getElem?_set_ne (h.ne_of_mem hj hslot fun _ h => nomatch h)]
      exact h.done_of_mem j hj
    · intro j r hdone
      by_cases hij : i = j
      · subst hij
        rw [List.getElem?_set_self', hslot] at hdone
        cases hdone
      · rw [List.getElem?_set_ne hij] at hdone
        exact h.mem_of_done j r hdone
  | @complete i x hslot htask =>
    -- The slot had no result before, so its task is not completed twice.
    have hself : (slots.set i (.done (work x)))[i]? = some (.done (work x)) := by
      rw [List.getElem?_set_self', hslot]
      rfl
    refine ⟨by rw [List.length_set, h.length], ?_, ?_, ?_⟩
    · refine List.nodup_append.mpr ⟨h.nodup, List.nodup_singleton i, ?_⟩
      intro j hj k hk
      rw [List.mem_singleton.mp hk]
      exact (h.ne_of_mem hj hslot fun _ h => nomatch h).symm
    · intro j hj
      rcases List.mem_append.mp hj with hj | hj
      · rw [List.getElem?_set_ne (h.ne_of_mem hj hslot fun _ h => nomatch h)]
        exact h.done_of_mem j hj
      · rw [List.mem_singleton.mp hj]
        exact ⟨x, htask, hself⟩
    · intro j r hdone
      by_cases hij : i = j
      · exact List.mem_append_right order (List.mem_singleton.mpr hij.symm)
      · rw [List.getElem?_set_ne hij] at hdone
        exact List.mem_append_left [i] (h.mem_of_done j r hdone)

theorem Runs.sound (h : Runs work tasks order slots) : Sound work tasks order slots := by
  induction h with
  | start =>
    refine ⟨List.length_replicate, List.nodup_nil, List.forall_mem_nil _, ?_⟩
    intro i r hdone
    rw [List.getElem?_replicate] at hdone
    split at hdone <;> cases hdone
  | step _ hstep ih => exact ih.step hstep

theorem Sound.slots_eq (h : Sound work tasks order slots) (hall : ∀ i < tasks.length, i ∈ order) :
    slots = (tasks.map work).map .done := by
  apply List.ext_getElem?
  intro i
  rw [List.getElem?_map, List.getElem?_map]
  -- There are as many slots as tasks, so past the last task both sides hold nothing.
  by_cases hi : i < tasks.length
  · obtain ⟨x, htask, hslot⟩ := h.done_of_mem i (hall i hi)
    rw [hslot, htask]
    rfl
  · have hslots : slots.length ≤ i := by
      rw [h.length]
      omega
    rw [List.getElem?_eq_none hslots, List.getElem?_eq_none (by omega)]
    rfl

variable (work) in
theorem exists_runs (horder : order.Nodup) (hlt : ∀ i ∈ order, i < tasks.length) :
    ∃ slots, Runs work tasks order slots ∧
      ∀ i < tasks.length, i ∉ order → slots[i]? = some .waiting := by
  -- One worker can do it alone: the last task of the order still waits when those before it are
  -- completed, and nothing else is running then.
  induction order using List.reverseRecOn with
  | nil =>
    refine ⟨_, .start, fun i hi _ => ?_⟩
    rw [List.getElem?_replicate, if_pos hi]
  | append_singleton order i ih =>
    obtain ⟨hbefore, -, hfresh⟩ := List.nodup_append.mp horder
    obtain ⟨slots, hrun, hwait⟩ := ih hbefore fun j hj => hlt j (List.mem_append_left [i] hj)
    have hi : i < tasks.length := hlt i (List.mem_append_right order List.mem_cons_self)
    have hslot := hwait i hi fun hmem => hfresh i hmem i List.mem_cons_self rfl
    have htake := hrun.step (.takeUp hslot)
    rw [List.append_nil] at htake
    have hrunning : (slots.set i .running)[i]? = some .running := by
      rw [List.getElem?_set_self', hslot]
      rfl
    refine ⟨_, htake.step (.complete hrunning (List.getElem?_eq_getElem hi)), ?_⟩
    intro j hj hnot
    rw [List.mem_append, List.mem_singleton, not_or] at hnot
    rw [List.getElem?_set_ne (Ne.symm hnot.2), List.getElem?_set_ne (Ne.symm hnot.2)]
    exact hwait j hj hnot.1

/-- The runs that fill all slots: their tasks are completed in any order, and always with the same
results, which stand in the order of the tasks. -/
theorem runs_done_iff {results : List β} :
    Runs work tasks order (results.map .done) ↔
      order.Perm (List.range tasks.length) ∧ results = tasks.map work := by
  constructor
  · intro h
    -- All slots are filled, so the completed tasks are all that there are, and each of them is
    -- completed once.
    have hsound := h.sound
    have hlength : results.length = tasks.length := by
      rw [← hsound.length, List.length_map]
    have hmem : ∀ i, i ∈ order ↔ i ∈ List.range tasks.length := by
      intro i
      rw [List.mem_range]
      constructor
      · intro hi
        obtain ⟨x, htask, -⟩ := hsound.done_of_mem i hi
        exact (List.getElem?_eq_some_iff.mp htask).1
      · intro hi
        rw [← hlength] at hi
        apply hsound.mem_of_done i (results.get ⟨i, hi⟩)
        rw [List.getElem?_map, List.getElem?_eq_getElem hi]
        rfl
    have hslots := hsound.slots_eq fun i hi => (hmem i).mpr (List.mem_range.mpr hi)
    refine ⟨(List.perm_ext_iff_of_nodup hsound.nodup List.nodup_range).mpr hmem, ?_⟩
    exact List.map_injective_iff.mpr (fun r s hrs => Slot.done.inj hrs) hslots
  · rintro ⟨hperm, rfl⟩
    have hmem : ∀ i, i ∈ order ↔ i < tasks.length := by
      intro i
      rw [hperm.mem_iff, List.mem_range]
    obtain ⟨slots, hrun, -⟩ := exists_runs work (hperm.nodup_iff.mpr List.nodup_range)
      fun i hi => (hmem i).mp hi
    rw [← hrun.sound.slots_eq fun i hi => (hmem i).mpr hi]
    exact hrun

end Pool

/-! ## Outcomes -/

instance : Append LintOutcome :=
  ⟨fun a b => ⟨a.reports ++ b.reports, a.failures ++ b.failures⟩⟩

/-- What a worker hands over: reports, or a path with the reason why it could not be checked. -/
abbrev TaskResult := Except (Text × LintError) (List Report)

namespace LintOutcome

/-- Puts what a worker hands over behind the others. -/
def add (o : LintOutcome) : TaskResult → LintOutcome
  | .ok reports => { o with reports := o.reports ++ reports }
  | .error failure => { o with failures := o.failures ++ [failure] }

/-- The outcome of results that come one after the other. -/
def ofResults (results : List TaskResult) : LintOutcome :=
  results.foldl add ⟨[], []⟩

theorem append_assoc (a b c : LintOutcome) : a ++ b ++ c = a ++ (b ++ c) := by
  show LintOutcome.mk _ _ = LintOutcome.mk _ _
  rw [mk.injEq]
  exact ⟨List.append_assoc _ _ _, List.append_assoc _ _ _⟩

theorem append_empty (o : LintOutcome) : o ++ ⟨[], []⟩ = o := by
  show LintOutcome.mk _ _ = o
  rw [List.append_nil, List.append_nil]

theorem add_eq_append (o : LintOutcome) (result : TaskResult) :
    o.add result = o ++ add ⟨[], []⟩ result := by
  cases result with
  | ok reports =>
    show LintOutcome.mk _ _ = LintOutcome.mk _ _
    rw [mk.injEq]
    exact ⟨rfl, (List.append_nil _).symm⟩
  | error failure =>
    show LintOutcome.mk _ _ = LintOutcome.mk _ _
    rw [mk.injEq]
    exact ⟨(List.append_nil _).symm, rfl⟩

theorem foldl_add (o : LintOutcome) (results : List TaskResult) :
    results.foldl add o = o ++ ofResults results := by
  induction results generalizing o with
  | nil => exact (append_empty o).symm
  | cons result results ih =>
    unfold ofResults
    rw [List.foldl_cons, List.foldl_cons, ih, ih (add _ result), add_eq_append, append_assoc]

theorem ofResults_cons (result : TaskResult) (results : List TaskResult) :
    ofResults (result :: results) = add ⟨[], []⟩ result ++ ofResults results :=
  foldl_add _ results

theorem ofResults_append (results more : List TaskResult) :
    ofResults (results ++ more) = ofResults results ++ ofResults more := by
  unfold ofResults
  rw [List.foldl_append, foldl_add]
  rfl

end LintOutcome

namespace Linter

/-- The task of checking one file: an error is handed over with the path. -/
def task (l : Linter) (t : Tree) (path : Text) : TaskResult :=
  (l.lintFile t path).mapError (path, ·)

/-- A file that cannot be checked, with the reason. -/
def failure? (l : Linter) (t : Tree) (path : Text) : Option (Text × LintError) :=
  match l.lintFile t path with
  | .ok _ => none
  | .error e => some (path, e)

variable (l : Linter) (t : Tree)

theorem lintFiles_eq_ofResults (paths : List Text) :
    l.lintFiles t paths = .ofResults (paths.map (l.task t)) := by
  induction paths with
  | nil => rfl
  | cons path paths ih =>
    -- What the first path adds stands in front of what the others come to.
    rw [lintFiles, List.map_cons, LintOutcome.ofResults_cons, ih, task]
    cases l.lintFile t path <;> rfl

theorem lintFiles_append (xs ys : List Text) :
    l.lintFiles t (xs ++ ys) = l.lintFiles t xs ++ l.lintFiles t ys := by
  simp only [lintFiles_eq_ofResults, List.map_append, LintOutcome.ofResults_append]

theorem reports_lintFiles (paths : List Text) :
    (l.lintFiles t paths).reports =
      (paths.filterMap fun path => (l.lintFile t path).toOption).flatten := by
  induction paths with
  | nil => rfl
  | cons path paths ih =>
    rw [lintFiles, List.filterMap_cons]
    cases l.lintFile t path with
    | ok reports =>
      show reports ++ (l.lintFiles t paths).reports = _
      rw [ih]
      rfl
    | error e => exact ih

theorem failures_lintFiles (paths : List Text) :
    (l.lintFiles t paths).failures = paths.filterMap (l.failure? t) := by
  induction paths with
  | nil => rfl
  | cons path paths ih =>
    rw [lintFiles, List.filterMap_cons, failure?]
    cases l.lintFile t path with
    | ok reports => exact ih
    | error e => exact congrArg _ ih

theorem perm_of_lintFiles (paths : List Text) :
    (paths.filter (fun path => (l.lintFile t path).isOk) ++
      (l.lintFiles t paths).failures.map Prod.fst).Perm paths := by
  -- The failures name the paths that the filter leaves out.
  have hfailed : (l.lintFiles t paths).failures.map Prod.fst =
      paths.filter fun path => !(l.lintFile t path).isOk := by
    rw [failures_lintFiles, List.map_filterMap, ← List.filterMap_eq_filter]
    congr 1
    funext path
    show (l.failure? t path).map Prod.fst =
      if (!(l.lintFile t path).isOk) = true then some path else none
    unfold failure?
    cases l.lintFile t path <;> rfl
  rw [hfailed]
  exact List.filter_append_perm _ paths

/-- However the workers of a pool come to complete their tasks, the outcome is that of checking the
files one after the other: the reports of the files that can be checked and the failures of the
others, both in the order of the paths. Every path is among the ones or the others as often as it is
given, a failure leaves all other files alone, and paths put together have outcomes put together. -/
theorem outcome_of_pool (paths : List Text) :
    let o := l.lintFiles t paths
    (∀ order, (∃ results : List TaskResult, Pool.Runs (l.task t) paths order (results.map .done)) ↔
      order.Perm (List.range paths.length)) ∧
    (∀ order (results : List TaskResult), Pool.Runs (l.task t) paths order (results.map .done) →
      .ofResults results = o) ∧
    o.reports = (paths.filterMap fun path => (l.lintFile t path).toOption).flatten ∧
    o.failures = paths.filterMap (l.failure? t) ∧
    (paths.filter (fun path => (l.lintFile t path).isOk) ++ o.failures.map Prod.fst).Perm paths ∧
    (∀ before path after e, paths = before ++ path :: after → l.lintFile t path = .error e →
      o.reports = (l.lintFiles t (before ++ after)).reports ∧
      o.failures = (l.lintFiles t before).failures ++
        (path, e) :: (l.lintFiles t after).failures) ∧
    ∀ more, l.lintFiles t (paths ++ more) = o ++ l.lintFiles t more := by
  intro o
  refine ⟨?_, ?_, l.reports_lintFiles t paths, l.failures_lintFiles t paths,
    l.perm_of_lintFiles t paths, ?_, l.lintFiles_append t paths⟩
  · intro order
    constructor
    · rintro ⟨results, hrun⟩
      exact (Pool.runs_done_iff.mp hrun).1
    · intro hperm
      exact ⟨_, Pool.runs_done_iff.mpr ⟨hperm, rfl⟩⟩
  · intro order results hrun
    rw [(Pool.runs_done_iff.mp hrun).2, ← lintFiles_eq_ofResults]
  · intro before path after e hpaths he
    have hpath : l.lintFiles t (path :: after) =
        ⟨(l.lintFiles t after).reports, (path, e) :: (l.lintFiles t after).failures⟩ := by
      rw [lintFiles, he]
    have ho : o = l.lintFiles t before ++ l.lintFiles t (path :: after) := by
      rw [← lintFiles_append, ← hpaths]
    rw [ho, hpath, lintFiles_append]
    exact ⟨rfl, rfl⟩

/-- A documentation file that is blank, with an empty manifest next to it. -/
def blankBundle : Tree :=
  .dir [("README.md".toList, .file (.ofText " \n".toList)),
    ("build.properties".toList, .file (.ofText []))]

def plainLinter : Linter :=
  ⟨{ headerExceptions := [] }, [], ⟨[], [], "README.md".toList⟩⟩

theorem outcome_of_pool_blankBundle :
    let paths := ["x.md".toList, "README.md".toList, "x.md".toList]
    ∃ results : List TaskResult,
      Pool.Runs (plainLinter.task blankBundle) paths [1, 2, 0] (results.map .done) ∧
      (LintOutcome.ofResults results).reports.map Report.path =
        ["README.md".toList, "./build.properties".toList] ∧
      (LintOutcome.ofResults results).failures.map Prod.fst =
        ["x.md".toList, "x.md".toList] := by
  intro paths
  obtain ⟨horder, hsame, hreports, hfailures, -⟩ := plainLinter.outcome_of_pool blankBundle paths
  obtain ⟨results, hrun⟩ := (horder [1, 2, 0]).mpr (by decide)
  refine ⟨results, hrun, ?_, ?_⟩
  · rw [hsame _ _ hrun, hreports]
    rfl
  · rw [hsame _ _ hrun, hfailures]
    rfl

end Linter

end DocLint
