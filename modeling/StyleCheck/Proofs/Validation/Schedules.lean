import StyleCheck.Proofs.EditorConfig.Steps
import StyleCheck.Validation.Workers
import Mathlib.Algebra.BigOperators.Group.List.Basic
import Mathlib.Algebra.GroupWithZero.Nat

/-!
# Checking side by side finds what checking in turn finds

A batch of files is checked by workers whose steps come in any order. The steps share the memory
of a resolver, so one search may find what another has remembered, or both may miss a directory,
read its file and remember it twice.

**Theorem (`workers_agree`).** Every schedule of a batch comes to an end, none gets stuck before all
files are counted, and all of them end with the same reports: one for each file, in the order of
the files, each with the outcome of checking its file alone on a fresh resolver. These are also
the reports of checking the files one after the other.

The memory reflects the file system throughout (`Resolver.Reflects`): an entry comes from
consulting a directory, and the file system does not change. So every task has a *result to come*
that no step alters (`Task.result_step`), and at the start it is the outcome of the file alone. The
steps left to do become fewer with every step, which bounds the length of all schedules.
-/

namespace StyleCheck.Validation

open EditorConfig (Resolver Search chain)

variable {inputs : Inputs} {resolver : Resolver} {path : Path}

/-! ## One file after the other -/

/-- The outcome of a file that is checked alone, on a fresh resolver. -/
def Inputs.alone (inputs : Inputs) (path : Path) :
    Except FileFailure (List Finding) :=
  (inputs.check path {}).1

theorem check_of_reflects (path : Path) (h : resolver.Reflects inputs.files) :
    (inputs.check path resolver).1 = inputs.alone path ∧
      (inputs.check path resolver).2.Reflects inputs.files := by
  unfold Inputs.alone Inputs.check fileFindings bytesFindings
  cases inputs.read path with
  | error cause => exact ⟨rfl, h⟩
  | ok bytes =>
    simp only
    cases textToCheck bytes with
    | error error => exact ⟨rfl, h⟩
    | ok text =>
      cases text with
      | none => exact ⟨rfl, h⟩
      | some text =>
        obtain ⟨hsettings, hafter⟩ := Resolver.settings_of_reflects path h
        simp only
        rcases hs : Resolver.settings inputs.files path resolver with ⟨found, after⟩
        rcases hf : Resolver.settings inputs.files path {} with ⟨found', after'⟩
        rw [hs, hf] at hsettings
        rw [hs] at hafter
        obtain rfl : found = found' := hsettings
        cases found with
        | error failure => exact ⟨rfl, hafter⟩
        | ok settings => exact ⟨rfl, hafter⟩

/-- Checking in turn gives every file the outcome that it has alone. -/
theorem ofPaths_eq_map (inputs : Inputs) (paths : List Path)
    (h : resolver.Reflects inputs.files) :
    (Report.ofPaths inputs.check paths resolver).1 =
      paths.map fun path => Report.ofOutcome path (inputs.alone path) := by
  induction paths generalizing resolver with
  | nil => rfl
  | cons path paths ih =>
    obtain ⟨houtcome, hafter⟩ := check_of_reflects path h
    simp only [Report.ofPaths, List.map_cons, houtcome, ih hafter]

/-! ## One task -/

namespace Task

/-- The outcome to come when the rest is done without a memory. -/
def result (inputs : Inputs) (path : Path) : Task → Except FileFailure (List Finding)
  | waiting => inputs.alone path
  | searching text location search =>
    inputs.outcome text location (search.result inputs.files)
  | checked outcome | counted outcome => outcome

/-- What the task is about to remember is what the directory says. -/
def Honest (inputs : Inputs) : Task → Prop
  | searching _ _ search => search.Honest inputs.files
  | _ => True

/-- How many directories a search for the settings of a path may visit. -/
def depth (inputs : Inputs) (path : Path) : Nat :=
  match Resolver.locate inputs.files path with
  | .error _ => 0
  | .ok location => location.directories.length

/-- How many steps the task has left at most. -/
def remaining (inputs : Inputs) (path : Path) : Task → Nat
  | waiting => 3 * depth inputs path + 3
  | searching _ _ search => search.remaining + 2
  | checked _ => 1
  | counted _ => 0

/-- Whether the task is done. -/
def isCounted : Task → Bool
  | counted _ => true
  | _ => false

theorem result_start (inputs : Inputs) (path : Path) :
    (start inputs path).result inputs path = inputs.alone path := by
  unfold start Inputs.alone Inputs.check fileFindings bytesFindings
  cases inputs.read path with
  | error cause => rfl
  | ok bytes =>
    simp only
    cases textToCheck bytes with
    | error error => rfl
    | ok text =>
      cases text with
      | none => rfl
      | some text =>
        have hsettings := Resolver.settings_empty inputs.files path
        rcases hs : Resolver.settings inputs.files path {} with ⟨found, after⟩
        rw [hs] at hsettings
        obtain rfl : found = _ := hsettings
        simp only [Resolver.freshProperties]
        cases Resolver.locate inputs.files path with
        | error failure => rfl
        | ok location =>
          simp only [result, EditorConfig.Search.result_resume]
          cases chain inputs.files location.directories <;> rfl

theorem honest_start (inputs : Inputs) (path : Path) :
    (start inputs path).Honest inputs := by
  unfold start
  split
  · trivial
  · split
    · trivial
    · trivial
    · split
      · trivial
      · exact EditorConfig.Search.honest_resume ..

theorem remaining_start (inputs : Inputs) (path : Path) :
    (start inputs path).remaining inputs path ≤ 3 * depth inputs path + 2 := by
  unfold start
  split
  · simp [remaining]
  · split
    · simp [remaining]
    · simp [remaining]
    · split
      next => simp [remaining]
      next location hl =>
        have := EditorConfig.Search.remaining_resume [] location.directories
        simp only [remaining, depth, hl]
        omega

/-- All that a step of a task can do. -/
theorem step_cases {task next : Task} {after : Resolver}
    (h : task.step inputs path resolver = some (next, after)) :
    (task = .waiting ∧ next = start inputs path ∧ after = resolver) ∨
    (∃ text location result, task = .searching text location (.ended result) ∧
      next = .checked (inputs.outcome text location result) ∧ after = resolver) ∨
    (∃ text location search, task = .searching text location search ∧
      (∀ result, search ≠ .ended result) ∧
      next = .searching text location (search.step inputs.files resolver).1 ∧
      after = (search.step inputs.files resolver).2) ∨
    (∃ outcome, task = .checked outcome ∧ next = .counted outcome ∧ after = resolver) := by
  cases task with
  | waiting =>
    cases h
    exact .inl ⟨rfl, rfl, rfl⟩
  | searching text location search =>
    cases search with
    | ended result =>
      cases h
      exact .inr (.inl ⟨text, location, result, rfl, rfl, rfl⟩)
    | _ =>
      cases h
      exact .inr (.inr (.inl ⟨text, location, _, rfl, by simp, rfl, rfl⟩))
  | checked outcome =>
    cases h
    exact .inr (.inr (.inr ⟨outcome, rfl, rfl, rfl⟩))
  | counted outcome => cases h

/-- **A step keeps the outcome to come**, and the memory goes on reflecting the files. -/
theorem result_step {task next : Task} {after : Resolver}
    (h : task.step inputs path resolver = some (next, after))
    (hhonest : task.Honest inputs) (hr : resolver.Reflects inputs.files) :
    next.result inputs path = task.result inputs path ∧
      next.Honest inputs ∧ after.Reflects inputs.files := by
  obtain ⟨rfl, rfl, rfl⟩ | ⟨text, location, result, rfl, rfl, rfl⟩ |
    ⟨text, location, search, rfl, -, rfl, rfl⟩ | ⟨outcome, rfl, rfl, rfl⟩ := step_cases h
  · exact ⟨result_start .., honest_start .., hr⟩
  · exact ⟨rfl, trivial, hr⟩
  · obtain ⟨hresult, hhonest', hafter⟩ := search.result_step hhonest hr
    refine ⟨?_, hhonest', hafter⟩
    simp only [result, hresult]
  · exact ⟨rfl, trivial, hr⟩

/-- Every step leaves fewer steps to do. -/
theorem remaining_step {task next : Task} {after : Resolver}
    (h : task.step inputs path resolver = some (next, after)) :
    next.remaining inputs path < task.remaining inputs path := by
  obtain ⟨rfl, rfl, -⟩ | ⟨text, location, result, rfl, rfl, -⟩ |
    ⟨text, location, search, rfl, hne, rfl, -⟩ | ⟨outcome, rfl, rfl, -⟩ := step_cases h
  · have := remaining_start inputs path
    simp only [remaining] at this ⊢
    omega
  · simp [remaining]
  · have := search.remaining_step inputs.files resolver hne
    simp only [remaining]
    omega
  · simp [remaining]

theorem isCounted_of_step_eq_none {task : Task}
    (h : task.step inputs path resolver = none) : ∃ outcome, task = .counted outcome := by
  cases task with
  | searching text location search => cases search <;> cases h
  | counted outcome => exact ⟨outcome, rfl⟩
  | _ => cases h

end Task

/-! ## Batches -/

namespace Batch

variable {paths : List Path} {batch next : Batch} {position : Nat} {schedule : List Nat}

/-- All that a step of a batch can do: a step of the task at the position. -/
theorem step_cases (h : batch.step inputs position = some next) :
    ∃ before path task after task' resolver',
      batch.tasks = before ++ (path, task) :: after ∧
      task.step inputs path batch.resolver = some (task', resolver') ∧
      next = { tasks := before ++ (path, task') :: after, resolver := resolver',
               progress := task.advance batch.progress } := by
  unfold step at h
  split at h
  · cases h
  next path task hget =>
    obtain ⟨⟨task', resolver'⟩, hstep, rfl⟩ := Option.map_eq_some_iff.1 h
    obtain ⟨hlt, hat⟩ := List.getElem?_eq_some_iff.1 hget
    obtain ⟨before, after, htasks, -, hset⟩ := 
      @List.exists_of_set _ position (path, task') batch.tasks hlt
    rw [hat] at htasks
    exact ⟨before, path, task, after, task', resolver', htasks, hstep, by simp only [hset]⟩

/-- What holds of a batch at every moment. -/
structure Sound (inputs : Inputs) (paths : List Path) (batch : Batch) : Prop where
  /-- Every file has its task, in the order of the files. -/
  paths_eq : batch.tasks.map Prod.fst = paths
  /-- The outcome to come of a task is that of its file alone. -/
  result_eq : ∀ entry ∈ batch.tasks,
    entry.2.result inputs entry.1 = inputs.alone entry.1
  honest : ∀ entry ∈ batch.tasks, entry.2.Honest inputs
  memory : batch.resolver.Reflects inputs.files
  done_eq : batch.progress.done = batch.tasks.countP fun entry => entry.2.isCounted

theorem sound_ofPaths (inputs : Inputs) (paths : List Path) :
    (ofPaths paths).Sound inputs paths where
  paths_eq := by simp [ofPaths, Function.comp_def]
  result_eq := by simp [ofPaths, Task.result]
  honest := by simp [ofPaths, Task.Honest]
  memory := Resolver.reflects_empty
  done_eq := by simp [ofPaths, Task.isCounted, List.countP_map, Function.comp_def]

/-- A step counts a file exactly if it takes the task to its end. -/
theorem done_advance {task task' : Task} {resolver' : Resolver} (progress : Progress)
    (h : task.step inputs path resolver = some (task', resolver')) :
    (task.advance progress).done = progress.done + (if task'.isCounted then 1 else 0) ∧
      task.isCounted = false := by
  obtain ⟨rfl, rfl, -⟩ | ⟨text, location, result, rfl, rfl, -⟩ |
    ⟨text, location, search, rfl, -, rfl, -⟩ | ⟨outcome, rfl, rfl, -⟩ := Task.step_cases h
  · have hstart : (Task.start inputs path).isCounted = false := by
      unfold Task.start
      split
      · rfl
      · split
        · rfl
        · rfl
        · split <;> rfl
    exact ⟨by simp [Task.advance, hstart], rfl⟩
  · exact ⟨rfl, rfl⟩
  · exact ⟨rfl, rfl⟩
  · exact ⟨rfl, rfl⟩

theorem Sound.step (h : batch.Sound inputs paths)
    (hs : batch.step inputs position = some next) : next.Sound inputs paths := by
  obtain ⟨before, path, task, after, task', resolver', htasks, hstep, rfl⟩ := step_cases hs
  have hmem : (path, task) ∈ batch.tasks := by simp [htasks]
  have hother : ∀ entry, entry ∈ before ∨ entry ∈ after → entry ∈ batch.tasks := by
    intro entry he
    rcases he with he | he <;> simp [htasks, he]
  -- Only the task at the position moves; the others are as they were.
  obtain ⟨hresult, hhonest, hmemory⟩ := Task.result_step hstep (h.honest _ hmem) h.memory
  obtain ⟨hdone, hnot⟩ := done_advance batch.progress hstep
  refine ⟨?_, ?_, ?_, hmemory, ?_⟩
  · have := h.paths_eq
    rw [htasks] at this
    simpa using this
  · intro entry he
    rcases List.mem_append.1 he with he | he
    · exact h.result_eq entry (hother entry (.inl he))
    · rcases List.mem_cons.1 he with rfl | he
      · exact hresult.trans (h.result_eq _ hmem)
      · exact h.result_eq entry (hother entry (.inr he))
  · intro entry he
    rcases List.mem_append.1 he with he | he
    · exact h.honest entry (hother entry (.inl he))
    · rcases List.mem_cons.1 he with rfl | he
      · exact hhonest
      · exact h.honest entry (hother entry (.inr he))
  · have hbefore := h.done_eq
    rw [htasks] at hbefore
    simp only [List.countP_append, List.countP_cons, hnot] at hbefore ⊢
    rw [hdone, hbefore]
    simp
    omega

theorem Sound.run (h : batch.Sound inputs paths)
    (hs : batch.run inputs schedule = some next) : next.Sound inputs paths := by
  induction schedule generalizing batch with
  | nil =>
    cases hs
    exact h
  | cons position schedule ih =>
    obtain ⟨middle, hstep, hrest⟩ := Option.bind_eq_some_iff.1 hs
    exact ih (h.step hstep) hrest

/-! ## The end of a schedule -/

/-- How many steps the batch has left at most. -/
def remaining (inputs : Inputs) (batch : Batch) : Nat :=
  (batch.tasks.map fun entry => entry.2.remaining inputs entry.1).sum

theorem remaining_step (hs : batch.step inputs position = some next) :
    next.remaining inputs < batch.remaining inputs := by
  obtain ⟨before, path, task, after, task', resolver', htasks, hstep, rfl⟩ := step_cases hs
  have := Task.remaining_step hstep
  simp only [remaining, htasks, List.map_append, List.map_cons, List.sum_append, List.sum_cons]
  omega

/-- No schedule is longer than the steps that are left. -/
theorem length_le_remaining (hs : batch.run inputs schedule = some next) :
    schedule.length + next.remaining inputs ≤ batch.remaining inputs := by
  induction schedule generalizing batch with
  | nil =>
    cases hs
    simp
  | cons position schedule ih =>
    obtain ⟨middle, hstep, hrest⟩ := Option.bind_eq_some_iff.1 hs
    have := ih hrest
    have := remaining_step hstep
    simp only [List.length_cons]
    omega

/-- No step is left to do. -/
def IsOver (inputs : Inputs) (batch : Batch) : Prop :=
  ∀ position, batch.step inputs position = none

/-- A batch can be carried on until no step is left to do. -/
theorem exists_run_isOver (inputs : Inputs) (batch : Batch) :
    ∃ schedule last, batch.run inputs schedule = some last ∧ last.IsOver inputs := by
  by_cases h : batch.IsOver inputs
  · exact ⟨[], batch, rfl, h⟩
  · simp only [IsOver, not_forall, ← ne_eq, Option.ne_none_iff_exists'] at h
    obtain ⟨position, next, hstep⟩ := h
    have := remaining_step hstep
    obtain ⟨schedule, last, hrun, hover⟩ := exists_run_isOver inputs next
    exact ⟨position :: schedule, last, by simp [run, hstep, hrun], hover⟩
termination_by batch.remaining inputs

/-- When no step is left, every task is counted with the outcome of its file alone. -/
theorem Sound.tasks_eq (h : batch.Sound inputs paths) (hover : batch.IsOver inputs) :
    batch.tasks = paths.map fun path => (path, .counted (inputs.alone path)) := by
  have hcounted : ∀ entry ∈ batch.tasks,
      (entry.1, Task.counted (inputs.alone entry.1)) = entry := by
    rintro ⟨path, task⟩ he
    obtain ⟨position, hget⟩ := List.getElem?_of_mem he
    have hnone := hover position
    unfold Batch.step at hnone
    rw [hget] at hnone
    obtain ⟨outcome, rfl⟩ := Task.isCounted_of_step_eq_none (Option.map_eq_none_iff.1 hnone)
    have hresult : outcome = inputs.alone path := h.result_eq _ he
    rw [hresult]
  rw [← h.paths_eq, List.map_map]
  exact (List.map_id _).symm.trans (List.map_congr_left fun entry he => (hcounted entry he).symm)

theorem Sound.reports (h : batch.Sound inputs paths) (hover : batch.IsOver inputs) :
    batch.reports? =
      some (paths.map fun path => Report.ofOutcome path (inputs.alone path)) := by
  rw [reports?, h.tasks_eq hover, List.mapM_map]
  exact List.mapM_pure

theorem Sound.done (h : batch.Sound inputs paths) (hover : batch.IsOver inputs) :
    batch.progress.done = paths.length := by
  rw [h.done_eq, h.tasks_eq hover, List.countP_map]
  exact List.countP_eq_length.2 fun _ _ => rfl

end Batch

/-- **Every schedule ends with the reports of checking in turn.** Its length is bounded, it can be
carried on until no step is left, and then each file has the report of checking it alone. -/
theorem workers_agree (inputs : Inputs) (paths : List Path) :
    (∃ most, ∀ schedule batch,
      (Batch.ofPaths paths).run inputs schedule = some batch → schedule.length ≤ most) ∧
    (∀ schedule batch, (Batch.ofPaths paths).run inputs schedule = some batch →
      (∃ further last, batch.run inputs further = some last ∧ last.IsOver inputs) ∧
      (batch.IsOver inputs →
        batch.reports? = some (Report.ofPaths inputs.check paths {}).1 ∧
        batch.progress.done = paths.length)) ∧
    (Report.ofPaths inputs.check paths {}).1 =
      paths.map (fun path => match (inputs.check path {}).1 with
        | .ok findings => ⟨path, findings⟩
        | .error failure =>
          ⟨path, [{ line := none, check := .file, message := failure.message }]⟩) := by
  have hinturn := ofPaths_eq_map inputs paths Resolver.reflects_empty
  refine ⟨⟨(Batch.ofPaths paths).remaining inputs, fun schedule batch hrun => ?_⟩, ?_, ?_⟩
  · have := Batch.length_le_remaining hrun
    omega
  · intro schedule batch hrun
    have hsound := (Batch.sound_ofPaths inputs paths).run hrun
    refine ⟨batch.exists_run_isOver inputs, fun hover => ⟨?_, hsound.done hover⟩⟩
    rw [hinturn]
    exact hsound.reports hover
  · rw [hinturn]
    refine List.map_congr_left fun path _ => ?_
    unfold Report.ofOutcome Inputs.alone
    cases (inputs.check path {}).1 <;> rfl

end StyleCheck.Validation
