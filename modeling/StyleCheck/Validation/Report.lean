import StyleCheck.Charset.Detection
import StyleCheck.Failure
import StyleCheck.Validation.Content

/-!
# Files and reports

What is found in a file, and the reports on a batch of files.
-/

namespace StyleCheck.Validation

/-! ## Checking a file

A file is read, decoded and checked against its settings. Binary files and files with the file
marker on their first line have no errors; the marker is looked for in the raw bytes first, so
that a file that cannot be decoded can be exempted as well. Settings are looked up only for files
that are checked. -/

/-- Why a file could not be checked. -/
inductive FileFailure
  | read (cause : IoError)
  | decode (cause : Charset.DecodeError)
  | settings (cause : Failure)
  deriving DecidableEq, Repr

namespace FileFailure

/-- The text that reports the failure. -/
def message : FileFailure → String
  | read cause => "failed to read file: " ++ cause.text
  | decode cause => "failed to decode file: " ++ cause.message
  | settings cause => "failed to resolve editor settings: " ++ cause.message

/-- The failure as an error of the whole file. -/
def finding (failure : FileFailure) : Finding :=
  { line := none, check := .file, message := failure.message }

end FileFailure

/-- The bytes before the first end of line. -/
def firstLine (bytes : List UInt8) : List UInt8 := bytes.takeWhile fun b => b != 0x0A && b != 0x0D

/-- Whether the file marker is on the first line. -/
def isExempt (bytes : List UInt8) : Bool :=
  Text.hasWord (Text.Utf8.encode Marker.file.text.toList) (firstLine bytes)

/-- The text that the checks apply to, given a guess at its charset; `none` for binary and exempt
files. -/
def textToCheckWith (guess : Charset.Guess) (bytes : List UInt8) :
    Except Charset.DecodeError (Option (List Char)) :=
  if isExempt bytes then .ok none
  else match Charset.decodeWith guess bytes with
    | .error error => .error error
    | .ok .binary => .ok none
    | .ok (.text content _) =>
      .ok (if isExempt (Text.Utf8.encode content) then none else some content)

/-- The text that the checks apply to. -/
def textToCheck (bytes : List UInt8) : Except Charset.DecodeError (Option (List Char)) :=
  textToCheckWith (.ofBytes bytes) bytes

/-- Finds the settings of a file, and may remember something for later lookups. -/
abbrev SettingsLookup (σ : Type) := Path → σ → Except Failure EditorSettings × σ

/-- The same settings for every file. -/
def SettingsLookup.fixed (settings : EditorSettings) : SettingsLookup Unit := fun _ _ =>
  (.ok settings, ())

variable {σ : Type}

/-- The errors of a file with the given content. -/
def bytesFindings (options : CheckOptions) (lookup : SettingsLookup σ) (path : Path)
    (bytes : List UInt8) (state : σ) : Except FileFailure (List Finding) × σ :=
  match textToCheck bytes with
  | .error error => (.error (.decode error), state)
  | .ok none => (.ok [], state)
  | .ok (some text) =>
    match lookup path state with
    | (.error failure, state) => (.error (.settings failure), state)
    | (.ok settings, state) =>
      (.ok (contentFindings text (options.effective settings) options), state)

/-- The errors of a file that is read first. -/
def fileFindings (options : CheckOptions) (lookup : SettingsLookup σ)
    (read : Path → Except IoError (List UInt8)) (path : Path) (state : σ) :
    Except FileFailure (List Finding) × σ :=
  match read path with
  | .error cause => (.error (.read cause), state)
  | .ok bytes => bytesFindings options lookup path bytes state

end StyleCheck.Validation

namespace StyleCheck

/-! ## Reports

A batch of files gives one report per file, in the order of the files. A file that could not be
checked has that as its only error and does not disturb the others. -/

/-- What was found in a file. -/
structure Report where
  path : Path
  findings : List Finding
  deriving DecidableEq, Repr

namespace Report

/-- Whether nothing was found. -/
def isClean (report : Report) : Bool := report.findings.isEmpty

/-- The number of errors. -/
def count (report : Report) : Nat := report.findings.length

/-- The report on a file that was checked, or could not be. -/
def ofOutcome (path : Path) (outcome : Except Validation.FileFailure (List Finding)) : Report :=
  match outcome with
  | .ok findings => ⟨path, findings⟩
  | .error failure => ⟨path, [failure.finding]⟩

variable {σ : Type}

/-- The report on each of several files, checked one after the other. -/
def ofPaths (check : Path → σ → Except Validation.FileFailure (List Finding) × σ) :
    List Path → σ → List Report × σ
  | [], state => ([], state)
  | path :: paths, state =>
    let (outcome, state) := check path state
    let (reports, state) := ofPaths check paths state
    (ofOutcome path outcome :: reports, state)

end Report

/-- How many files of a batch are done. -/
structure Progress where
  done : Nat := 0
  deriving DecidableEq, Repr

/-- One more file is done. -/
def Progress.tick (progress : Progress) : Progress := ⟨progress.done + 1⟩

end StyleCheck
