import StyleCheck.CommandLine.Arguments
import StyleCheck.CommandLine.Grammar
import StyleCheck.Text.Basic

/-!
# Reading command lines

The grammars of the commands, and reading a command line against them. What applies to all
commands may be given before and after the name of the command; what comes later wins.
-/

namespace StyleCheck.CommandLine

/-! ## Values -/

/-- The path that a value stands for, which is not empty. -/
def pathOf (value : String) : Except Stop Path :=
  if value.isEmpty then .error .invalidValue else .ok ⟨value⟩

/-- The format that a value names. -/
def formatOf (value : String) : Except Stop Output.Format :=
  match Output.Format.parse? value with
  | some format => .ok format
  | none => .error .malformedValue

/-- The number that a value stands for. -/
def numberOf (value : String) : Except Stop Nat :=
  match Text.size? value.toList with
  | some number => .ok number
  | none => .error .malformedValue

/-- The choice of colours that a value names. -/
def colorOf (value : String) : Except Stop Output.ColorChoice :=
  match Output.ColorChoice.ofName? value with
  | some choice => .ok choice
  | none => .error .invalidValue

/-! ## Grammars -/

/-- The arguments of a command beside those that apply to all commands. -/
abbrev With (σ : Type) := GlobalArguments × σ

/-- How often verbosity is counted at most. -/
def maxVerbosity : Nat := 255

/-- The options of all commands. -/
def globalSwitches (σ : Type) : List (Switch (With σ)) :=
  let flag (set : GlobalArguments → GlobalArguments) : Effect (With σ) :=
    .flag fun (given, own) => (set given, own)
  [{ name := "verbose", letter := some 'v',
     effect := .counted fun (given, own) =>
      ({ given with verbosity := some (min maxVerbosity (given.verbosity.getD 0 + 1)) }, own) },
   { name := "quiet", letter := some 'q', effect := flag ({ · with quiet := true }) },
   { name := "color",
     effect := .value fun value (given, own) => do
      pure ({ given with color := some (← colorOf value) }, own) },
   { name := "no-config", effect := flag ({ · with noConfig := true }) },
   { name := "help", letter := some 'h', effect := .stop .help }]

/-- An option of the command itself that takes no value. -/
def ownFlag {σ : Type} (name : String) (set : σ → σ) : Switch (With σ) :=
  { name, effect := .flag fun (given, own) => (given, set own) }

/-- An option of the command itself that takes a value. -/
def ownValue {σ : Type} (name : String) (letter : Char) (set : String → σ → Except Stop σ) :
    Switch (With σ) :=
  { name, letter := some letter,
    effect := .value fun value (given, own) => do pure (given, ← set value own) }

/-- The options of the checks that can be switched off. -/
def disableSwitches : List (Switch (With CheckArguments)) :=
  let disable (name : String) (set : DisabledChecks → DisabledChecks) :=
    ownFlag ("disable-" ++ name) fun a : CheckArguments => { a with disable := set a.disable }
  [disable "trim-trailing-whitespace" ({ · with trimTrailingWhitespace := true }),
   disable "end-of-line" ({ · with endOfLine := true }),
   disable "insert-final-newline" ({ · with insertFinalNewline := true }),
   disable "indentation" ({ · with indentation := true }),
   disable "indent-size" ({ · with indentSize := true }),
   disable "max-line-length" ({ · with maxLineLength := true })]

/-- The grammar of `check`. -/
def checkGrammar : Grammar (With CheckArguments) where
  switches := globalSwitches CheckArguments ++ disableSwitches ++ [
    ownValue "config" 'c' fun value a => do pure { a with config := some (← pathOf value) },
    ownValue "format" 'f' fun value a => do pure { a with format := some (← formatOf value) },
    { name := "exclude", letter := some 'x',
      effect := .values fun value (given, a) =>
        pure (given, { a with exclude := a.exclude ++ [value] }) },
    ownFlag "ignore-defaults" ({ · with ignoreDefaults := true }),
    ownFlag "no-gitignore" ({ · with noGitignore := true }),
    ownFlag "spaces-after-tabs" ({ · with spacesAfterTabs := true }),
    ownFlag "dry-run" ({ · with dryRun := true }),
    ownValue "jobs" 'j' fun value a => do pure { a with jobs := some (← numberOf value) },
    ownFlag "no-parallel" ({ · with noParallel := true }),
    ownValue "output" 'o' fun value a => do pure { a with output := some (← pathOf value) }]
  positional := some fun value (given, a) => do
    pure (given, { a with paths := a.paths ++ [← pathOf value] })

/-- The grammar of `init`. -/
def initGrammar : Grammar (With InitArguments) where
  switches := globalSwitches InitArguments ++ [
    ownValue "output" 'o' fun value a => do pure { a with output := ← pathOf value },
    ownFlag "force" ({ · with force := true })]

/-- The grammar of the commands that are about one configuration file. -/
def configFileGrammar : Grammar (With (Option Path)) where
  switches := globalSwitches (Option Path) ++ [
    ownValue "config" 'c' fun value _ => some <$> pathOf value]

/-- The grammar of `config`. -/
def configGrammar : Grammar (With Unit) where
  switches := globalSwitches Unit
  subcommands := ["validate", "show", "help"]

/-- The grammar of what comes before the command. -/
def topGrammar : Grammar (With Unit) where
  switches := globalSwitches Unit ++
    [{ name := "version", letter := some 'V', effect := .stop .version }]
  subcommands := ["check", "init", "config", "help"]

/-! ## Commands -/

/-- What some words after `help` ask for, given the commands that can be asked about. -/
def helpOn {α : Type} (topics : List (List String)) (words : List String) : Except Stop α :=
  .error (if topics.contains words then .help else .unknownSubcommand)

/-- What can be asked about after `config help`. -/
def configTopics : List (List String) := [[], ["validate"], ["show"], ["help"]]

/-- What can be asked about after `help`. -/
def topics : List (List String) :=
  [[], ["check"], ["init"], ["help"]] ++ configTopics.map ("config" :: ·)

/-- Reads the arguments of a command without subcommands. -/
def readOwn {σ : Type} (grammar : Grammar (With σ)) (own : σ) (arguments : List String) :
    Except Stop (Progress (With σ)) := do
  let (progress, _) ← grammar.read { collected := ({}, own) } arguments
  grammar.settle progress

/-- Reads the arguments of a command that needs a subcommand. -/
def readOuter {α : Type} (grammar : Grammar (With Unit))
    (readSubcommand : String → List String → Except Stop (With α)) (arguments : List String) :
    Except Stop (With α) := do
  let (progress, found) ← grammar.read { collected := ({}, ()) } arguments
  let inner ← found.mapM fun (name, rest) => readSubcommand name rest
  let outer ← grammar.settle progress
  match inner with
  | some (given, own) => pure (given.over outer.collected.1, own)
  | none => throw (if outer.given.isEmpty then .nothingGiven else .missingSubcommand)

/-- Reads the arguments of `check`. -/
def readCheck (arguments : List String) : Except Stop (With CheckArguments) := do
  let progress ← readOwn checkGrammar {} arguments
  if progress.given.contains "jobs" && progress.given.contains "no-parallel" then throw .conflict
  let (given, own) := progress.collected
  pure (given, { own with paths := if own.paths.isEmpty then [⟨"."⟩] else own.paths })

/-- Reads a subcommand of `config` with its arguments. -/
def readConfigSubcommand (name : String) (arguments : List String) : Except Stop (With Command) :=
  match name with
  | "validate" => do
    let (given, config) := (← readOwn configFileGrammar none arguments).collected
    pure (given, .validateConfig (config.getD ⟨".ec-guard.toml"⟩))
  | "show" => do
    let (given, config) := (← readOwn configFileGrammar none arguments).collected
    pure (given, .showConfig config)
  | _ => helpOn configTopics arguments

/-- Reads a command with its arguments. -/
def readSubcommand (name : String) (arguments : List String) : Except Stop (With Command) :=
  match name with
  | "check" => do
    let (given, own) ← readCheck arguments
    pure (given, .check own)
  | "init" => do
    let (given, own) := (← readOwn initGrammar {} arguments).collected
    pure (given, .init own)
  | "config" => readOuter configGrammar readConfigSubcommand arguments
  | _ => helpOn topics arguments

/-- What a command line asks for. -/
def parse (arguments : List String) : Except Stop Invocation := do
  let (given, command) ← readOuter topGrammar readSubcommand arguments
  pure (.of given command)

end StyleCheck.CommandLine
