import StyleCheck.Disk.Basic
import StyleCheck.Failure
import StyleCheck.Output.Log

/-!
# Sessions

What a command works on: the disk, and the texts that it has written so far. A command may stop
with a failure; what it did before stays done.
-/

namespace StyleCheck.Command

/-- What surrounds a command and does not change. -/
structure Surroundings where
  /-- The user's directory. -/
  home : Path
  /-- Whether the output may be coloured where nothing is said about it. -/
  outputColors : Bool := false
  /-- Whether diagnostics may be coloured where nothing is said about it. -/
  diagnosticsColors : Bool := false

/-- The state of a command. -/
structure Session where
  disk : Disk
  output : String := ""
  diagnostics : String := ""

/-- What a command does. -/
abbrev Action := ExceptT Failure (StateM Session)

/-- Writes to the output. -/
def print (text : String) : Action Unit :=
  modify fun session => { session with output := session.output ++ text }

/-- Writes to the diagnostics. -/
def diagnose (text : String) : Action Unit :=
  modify fun session => { session with diagnostics := session.diagnostics ++ text }

/-- Changes the disk. -/
def change (change : Disk.Change Unit) : Action Unit := do
  let session ← get
  let (result, disk) := change.run session.disk
  set { session with disk }
  match result with
  | .ok _ => pure ()
  | .error cause => throw (.io cause)

/-- The disk. -/
def disk : Action Disk := do pure (← get).disk

/-- The disk for lookups of settings. -/
def fileSystem (surroundings : Surroundings) : Action FileSystem := do
  pure ((← disk).fileSystem (some (surroundings.home.join ⟨".config/ec-guard"⟩)))

/-- Writes a text to a file, making its directory, or to the output unless it is quiet. -/
def deliver (target : Option Path) (text : String) (quiet : Bool) : Action Unit :=
  match target with
  | some path => do
    match path.parent? with
    | some directory => change (Disk.makeDirectories directory)
    | none => pure ()
    change (Disk.write path (Text.Utf8.encode text.toList))
  | none => if quiet then pure () else print text

end StyleCheck.Command
