import StyleCheck.EditorConfig.Resolver
import StyleCheck.Validation.Report

/-!
# Checking files side by side

A batch of files checked by several workers that share one resolver. Each file is a task, and a
task advances in steps that are atomic for the others: read and decode the file, the steps of its
search for settings, check the text, count the file as done. A schedule lists whose turn it is,
task by task; it may come from any number of workers that take the files in any order. The
reports are collected by the position of the file, whichever is done first.
-/

namespace StyleCheck.Validation

open EditorConfig (Resolver Search)

/-- What a batch depends on and does not change. -/
structure Inputs where
  options : CheckOptions
  /-- The files as lookups of settings see them. -/
  files : FileSystem
  read : Path → Except IoError (List UInt8)

namespace Inputs

/-- The outcome of a file that a resolver checks. -/
def check (inputs : Inputs) (path : Path) (resolver : Resolver) :
    Except FileFailure (List Finding) × Resolver :=
  fileFindings inputs.options (fun path resolver => resolver.settings inputs.files path)
    inputs.read path resolver

/-- The outcome of a text, given the files with settings that were found for it. -/
def outcome (inputs : Inputs) (text : List Char) (location : Location) :
    Except Failure (List (Location × EditorConfig.Contents)) → Except FileFailure (List Finding)
  | .error failure => .error (.settings failure)
  | .ok files =>
    let settings := (Resolver.assigned location files).withoutUnset.settings
    .ok (contentFindings text (inputs.options.effective settings) inputs.options)

end Inputs

/-- How far a worker has come with a file. -/
inductive Task
  | waiting
  /-- Decoded, and searching for its settings. -/
  | searching (text : List Char) (location : Location) (search : Search)
  /-- Checked, but not counted yet. -/
  | checked (outcome : Except FileFailure (List Finding))
  | counted (outcome : Except FileFailure (List Finding))

namespace Task

/-- The task once its file is read and decoded. -/
def start (inputs : Inputs) (path : Path) : Task :=
  match inputs.read path with
  | .error cause => .checked (.error (.read cause))
  | .ok bytes =>
    match textToCheck bytes with
    | .error error => .checked (.error (.decode error))
    | .ok none => .checked (.ok [])
    | .ok (some text) =>
      match Resolver.locate inputs.files path with
      | .error failure => .checked (.error (.settings failure))
      | .ok location => .searching text location (.resume [] location.directories)

/-- One step of the task, and what it leaves of the resolver; `none` if the task is done. -/
def step (inputs : Inputs) (path : Path) (resolver : Resolver) :
    Task → Option (Task × Resolver)
  | waiting => some (start inputs path, resolver)
  | searching text location (.ended result) =>
    some (checked (inputs.outcome text location result), resolver)
  | searching text location search =>
    let (search, resolver) := search.step inputs.files resolver
    some (searching text location search, resolver)
  | checked outcome => some (counted outcome, resolver)
  | counted _ => none

/-- What the next step of the task makes of the progress. -/
def advance (progress : Progress) : Task → Progress
  | checked _ => progress.tick
  | _ => progress

/-- The report of a task that is done. -/
def report? (path : Path) : Task → Option Report
  | counted outcome => some (.ofOutcome path outcome)
  | _ => none

end Task

/-- The tasks of a batch, by the position of their files, and what they share. -/
structure Batch where
  tasks : List (Path × Task)
  resolver : Resolver := {}
  progress : Progress := {}

namespace Batch

/-- A batch that has not begun. -/
def ofPaths (paths : List Path) : Batch where
  tasks := paths.map (·, .waiting)

/-- The batch after a step of the task at a position; `none` if there is no step to do. -/
def step (inputs : Inputs) (batch : Batch) (position : Nat) : Option Batch :=
  match batch.tasks[position]? with
  | none => none
  | some (path, task) =>
    (task.step inputs path batch.resolver).map fun (next, resolver) =>
      { tasks := batch.tasks.set position (path, next), resolver,
        progress := task.advance batch.progress }

/-- The batch after the steps of a schedule; `none` if one of them is no step to do. -/
def run (inputs : Inputs) (batch : Batch) : (schedule : List Nat) → Option Batch
  | [] => some batch
  | position :: schedule => (batch.step inputs position).bind (·.run inputs schedule)

/-- The reports, in the order of the files; `none` as long as a task is not done. -/
def reports? (batch : Batch) : Option (List Report) :=
  batch.tasks.mapM fun (path, task) => task.report? path

end Batch

end StyleCheck.Validation
