import StyleCheck.Command.Check

/-!
# Running commands

What comes of a command: an exit code, the texts it has written, and the disk as it leaves it. The
exit code tells clean files from files with errors and from a run that failed, and a failure is
added to the diagnostics.
-/

namespace StyleCheck.Command

open CommandLine (Invocation)

/-- How a run ends. -/
inductive Exit
  | clean
  /-- Some file has errors. -/
  | errors
  /-- The run did not get to its end. -/
  | failed
  deriving DecidableEq, Repr

/-- The exit code of the program. -/
def Exit.code : Exit → Nat
  | clean => 0
  | errors => 1
  | failed => 2

/-- What comes of a command. -/
structure Outcome where
  exit : Exit
  output : String
  diagnostics : String
  disk : Disk

/-- What the command does. -/
def perform (surroundings : Surroundings) (invocation : Invocation) (log : Output.Log) :
    Action Exit := do
  match invocation.command with
  | .check arguments =>
    pure (if ← check surroundings invocation log arguments then .clean else .errors)
  | .init arguments =>
    init arguments invocation.quiet
    pure .clean
  | .validateConfig path =>
    validateConfig path
    pure .clean
  | .showConfig file =>
    showConfig surroundings file invocation.noConfig
    pure .clean

/-- How the diagnostics of a command are written. -/
def logOf (surroundings : Surroundings) (invocation : Invocation) : Output.Log where
  colors := invocation.color.colors surroundings.diagnosticsColors
  verbosity := invocation.verbosity
  quiet := invocation.quiet

/-- Runs a command on a disk. -/
def run (surroundings : Surroundings) (invocation : Invocation) (disk : Disk) : Outcome :=
  let log := logOf surroundings invocation
  match (perform surroundings invocation log).run { disk } with
  | (.ok exit, session) => ⟨exit, session.output, session.diagnostics, session.disk⟩
  | (.error failure, session) =>
    ⟨.failed, session.output, session.diagnostics ++ log.failure failure, session.disk⟩

end StyleCheck.Command
