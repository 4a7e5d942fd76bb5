import StyleCheck.Command.Session
import StyleCheck.CommandLine.Arguments
import StyleCheck.Config.Loading
import StyleCheck.Config.Template
import StyleCheck.EditorConfig.Resolver
import StyleCheck.Path.Basic
import StyleCheck.Selection.Basic
import StyleCheck.Validation.Report

/-!
# Commands

What each command does: it makes, checks or shows a configuration, or it checks files.
-/

namespace StyleCheck.Command

/-! ## Commands about configurations

Making a configuration file, checking one, and showing the configuration in effect. -/

open CommandLine (InitArguments)

/-- The configuration of a run: the defaults if none is wanted, the file that is asked for, or the
one that is found. -/
def loadConfig (surroundings : Surroundings) (file : Option Path) (noConfig : Bool) :
    Action Config.Loaded := do
  if noConfig then return ⟨{}, none⟩
  let fs ← fileSystem surroundings
  match file with
  | some path => liftExcept (Config.loadFrom fs path)
  | none => liftExcept (Config.discover fs)

/-- Writes the configuration template, in place of an old file only if that is asked for. -/
def init (arguments : InitArguments) (quiet : Bool) : Action Unit := do
  let path := arguments.output
  if (← disk).holds path && !arguments.force then
    throw (.config ("Configuration file already exists: " ++ path.text ++
      ". Use --force to overwrite."))
  change (Disk.write path (Text.Utf8.encode Config.template.toList))
  if !quiet then print ("Created configuration file: " ++ path.text ++ "\n")

/-- Tells whether a configuration file is valid. -/
def validateConfig (path : Path) : Action Unit := do
  let disk ← disk
  if !disk.holds path then throw (.config ("Configuration file not found: " ++ path.text))
  match disk.readText path with
  | .error cause => throw (.io cause)
  | .ok text =>
    let _ ← liftExcept (Config.parse text)
    print ("Configuration is valid: " ++ path.text ++ "\n")

/-- Shows the configuration in effect and where it comes from. -/
def showConfig (surroundings : Surroundings) (file : Option Path) (noConfig : Bool) :
    Action Unit := do
  let loaded ← loadConfig surroundings file noConfig
  let source := (loaded.source.map Path.text).getD "built-in defaults"
  print ("# Source: " ++ source ++ "\n" ++ loaded.config.render)

end StyleCheck.Command

namespace StyleCheck.Command

/-! ## Checking files

The configuration with what the command line adds to it decides which files are checked and how;
the reports on them are written in its format. Files have errors when some report is not clean. -/

open CommandLine (CheckArguments Invocation)

/-- The checks that are disabled here or there. -/
def disabledInEither (a b : DisabledChecks) : DisabledChecks where
  trimTrailingWhitespace := a.trimTrailingWhitespace || b.trimTrailingWhitespace
  endOfLine := a.endOfLine || b.endOfLine
  insertFinalNewline := a.insertFinalNewline || b.insertFinalNewline
  indentation := a.indentation || b.indentation
  indentSize := a.indentSize || b.indentSize
  maxLineLength := a.maxLineLength || b.maxLineLength

/-- The configuration with what the command line adds. The command line can add excludes, switch
things off and choose the format, but takes nothing back. -/
def withArguments (config : Config) (arguments : CheckArguments) : Config :=
  { config with
    exclude := config.exclude ++ arguments.exclude
    ignoreDefaults := config.ignoreDefaults || arguments.ignoreDefaults
    gitignore := config.gitignore && !arguments.noGitignore
    spacesAfterTabs := config.spacesAfterTabs || arguments.spacesAfterTabs
    parallel := config.parallel && !arguments.noParallel
    format := arguments.format.getD config.format
    disable := disabledInEither config.disable arguments.disable }

/-- The files to check. -/
def selectedFiles (surroundings : Surroundings) (config : Config) (paths : List Path) :
    Action (List Path) := do
  match Exclude.Filter.ofPatterns config.excludes with
  | .error error => throw (.invalidPattern error.glob error)
  | .ok filter =>
    let selection : Selection := { filter, heedsIgnoreFiles := config.gitignore }
    liftExcept (selection.ofPaths (← disk) surroundings.home paths)

/-- The reports on some files, with the settings that `.editorconfig` files give them. -/
def reportsOn (surroundings : Surroundings) (config : Config) (files : List Path) :
    Action (List Report) := do
  let disk ← disk
  let fs ← fileSystem surroundings
  let check := Validation.fileFindings config.checkOptions
    (fun path (resolver : EditorConfig.Resolver) => resolver.settings fs path) disk.read
  pure (Report.ofPaths check files {}).1

/-- The configuration in effect and the reports on the files that are asked for; none if the files
are only listed. -/
def validate (surroundings : Surroundings) (invocation : Invocation) (log : Output.Log)
    (arguments : CheckArguments) : Action (Option (Config × List Report)) := do
  let loaded ← loadConfig surroundings arguments.config invocation.noConfig
  diagnose (log.trace 1 (match loaded.source with
    | some path => "Using config " ++ path.text
    | none => "No config file found, using defaults"))
  let config := withArguments loaded.config arguments
  let files ← selectedFiles surroundings config arguments.paths
  diagnose (log.trace 1 ("Found " ++ toString files.length ++ " file(s) to check"))
  if arguments.dryRun then
    let listing := String.join (files.map fun path => path.display ++ "\n")
    deliver arguments.output listing false
    return none
  let reports ← reportsOn surroundings config files
  return some (config, reports)

/-- Delivers the reports in a format and tells whether all of them are clean. -/
def conclude (surroundings : Surroundings) (invocation : Invocation) (log : Output.Log)
    (arguments : CheckArguments) (format : Output.Format) (reports : List Report) :
    Action Bool := do
  for report in reports.filter (!·.isClean) do
    diagnose (log.trace 2 (report.path.display ++ ": " ++ toString report.count ++ " error(s)"))
  let colors := arguments.output.isNone && invocation.color.colors surroundings.outputColors
  deliver arguments.output (format.render colors reports) invocation.quiet
  return reports.all (·.isClean)

/-- Checks files and tells whether all of them are clean. -/
def check (surroundings : Surroundings) (invocation : Invocation) (log : Output.Log)
    (arguments : CheckArguments) : Action Bool := do
  match ← validate surroundings invocation log arguments with
  | none => return true
  | some (config, reports) =>
    conclude surroundings invocation log arguments config.format reports

end StyleCheck.Command
