/-!
# Grammars of command lines

A command line is read against a grammar: which options there are, what they do to the arguments
collected so far, and what arguments that are no options stand for. Reading is the same for all
grammars.

- `--name value` and `--name=value` give an option its value, `-n value`, `-nvalue` and
  `-n=value` do so by its letter, and options without a value share a `-`, as in `-abc`.
- An option waits for its value in the next argument that is no option itself; the value takes
  effect only when the next option or positional argument turns up, or at the end.
- After `--` every argument is positional. An argument that names a subcommand ends the reading,
  and the rest belongs to the subcommand.
-/

namespace StyleCheck.CommandLine

/-- Why a command line stands for no command. -/
inductive Stop
  /-- Help was asked for. -/
  | help
  /-- The version was asked for. -/
  | version
  /-- Nothing was given where a subcommand is needed. -/
  | nothingGiven
  /-- Options were given, but no subcommand where one is needed. -/
  | missingSubcommand
  | unknownSubcommand
  | unknownArgument
  /-- An option was given twice, or together with one that it excludes. -/
  | conflict
  /-- A value was given to an option that takes none. -/
  | superfluousValue
  /-- A value is missing or empty, or none of the possible ones. -/
  | invalidValue
  /-- A value has the wrong form. -/
  | malformedValue
  deriving DecidableEq, Repr

/-- The exit code that goes with a stop: asking for help is no error. -/
def Stop.exitCode : Stop → Nat
  | help | version => 0
  | _ => 2

/-- What an option does to the arguments collected so far. -/
inductive Effect (σ : Type)
  /-- Takes no value and is given once. -/
  | flag (set : σ → σ)
  /-- Takes no value and is given any number of times. -/
  | counted (increase : σ → σ)
  /-- Takes a value and is given once. -/
  | value (set : String → σ → Except Stop σ)
  /-- Takes a value and is given any number of times. -/
  | values (add : String → σ → Except Stop σ)
  /-- Ends the reading. -/
  | stop (reason : Stop)

/-- Whether the option takes a value. -/
def Effect.takesValue {σ : Type} : Effect σ → Bool
  | value _ | values _ => true
  | flag _ | counted _ | stop _ => false

/-- An option, by its name and maybe by a letter. -/
structure Switch (σ : Type) where
  name : String
  letter : Option Char := none
  effect : Effect σ

/-- What a command line may hold. -/
structure Grammar (σ : Type) where
  switches : List (Switch σ)
  /-- What a positional argument does, if there may be any. -/
  positional : Option (String → σ → Except Stop σ) := none
  subcommands : List String := []

/-- What has been read but has not taken effect. -/
inductive Pending (σ : Type)
  | nothing
  /-- An option that takes a value, and the value unless it is still waited for. -/
  | switch (switch : Switch σ) (value : Option String)
  | positionals (values : List String)

/-- How far a command line has been read. -/
structure Progress (σ : Type) where
  /-- The arguments collected so far. -/
  collected : σ
  /-- The names of the options that have taken effect. -/
  given : List String := []
  pending : Pending σ := .nothing

namespace Progress

variable {σ : Type}

/-- Lets an option that is given at most once take effect. -/
def once (progress : Progress σ) (name : String) (set : σ → Except Stop σ) :
    Except Stop (Progress σ) := do
  if progress.given.contains name then throw .conflict
  pure { progress with collected := ← set progress.collected, given := name :: progress.given }

/-- Lets an option take effect. -/
def again (progress : Progress σ) (name : String) (add : σ → Except Stop σ) :
    Except Stop (Progress σ) := do
  pure { progress with collected := ← add progress.collected, given := name :: progress.given }

/-- Lets an option with a value take effect. -/
def assign (progress : Progress σ) (switch : Switch σ) (value : String) :
    Except Stop (Progress σ) :=
  match switch.effect with
  | .value set => progress.once switch.name (set value)
  | .values add => progress.again switch.name (add value)
  | .flag _ | .counted _ | .stop _ => throw .superfluousValue

/-- Whether the next argument belongs to what is pending, even if it names a subcommand. -/
def isCollecting (progress : Progress σ) : Bool :=
  match progress.pending with
  | .switch _ none | .positionals _ => true
  | .switch _ (some _) | .nothing => false

end Progress

namespace Grammar

variable {σ : Type} (grammar : Grammar σ)

/-- What a stray argument is: a subcommand that does not exist where there are subcommands. -/
def stray : Stop := if grammar.subcommands.isEmpty then .unknownArgument else .unknownSubcommand

/-- Lets what is pending take effect. -/
def settle (progress : Progress σ) : Except Stop (Progress σ) :=
  let settled := { progress with pending := .nothing }
  match progress.pending, grammar.positional with
  | .nothing, _ => .ok progress
  | .switch _ none, _ => .error .invalidValue
  | .switch switch (some value), _ => settled.assign switch value
  | .positionals _, none => .error grammar.stray
  | .positionals values, some add => do
    pure { settled with collected := ← values.foldlM (fun c value => add value c) settled.collected }

/-- Lets an option without a value take effect. -/
def apply (progress : Progress σ) (switch : Switch σ) : Except Stop (Progress σ) := do
  let progress ← grammar.settle progress
  match switch.effect with
  | .flag set => progress.once switch.name fun c => pure (set c)
  | .counted increase => progress.again switch.name fun c => pure (increase c)
  | .stop reason => throw reason
  | .value _ | .values _ => pure { progress with pending := .switch switch none }

/-- Lets an option take effect that comes with its value. -/
def applyWith (progress : Progress σ) (switch : Switch σ) (value : String) :
    Except Stop (Progress σ) := do
  let progress ← grammar.settle progress
  progress.assign switch value

/-- Reads an option by its name. -/
def readName (progress : Progress σ) (name : String) (value : Option String) :
    Except Stop (Progress σ) :=
  match grammar.switches.find? (·.name == name), value with
  | none, _ => throw .unknownArgument
  | some switch, none => grammar.apply progress switch
  | some switch, some value =>
    if switch.effect.takesValue then grammar.applyWith progress switch value
    else throw .superfluousValue

/-- Reads options by their letters; the letters after an option that takes a value are the
value. -/
def readLetters (progress : Progress σ) : List Char → Except Stop (Progress σ)
  | [] => pure progress
  | letter :: letters =>
    match grammar.switches.find? (·.letter == some letter) with
    | none => throw .unknownArgument
    | some switch =>
      if switch.effect.takesValue then
        match letters with
        | [] => grammar.apply progress switch
        | '=' :: value => grammar.applyWith progress switch (String.ofList value)
        | value => grammar.applyWith progress switch (String.ofList value)
      else do
        let progress ← grammar.apply progress switch
        readLetters progress letters

/-- Reads a positional argument. -/
def readPositional (progress : Progress σ) (value : String) : Except Stop (Progress σ) :=
  match progress.pending, grammar.positional with
  | _, none => throw grammar.stray
  | .positionals values, some _ =>
    pure { progress with pending := .positionals (values ++ [value]) }
  | _, some _ => do
    let progress ← grammar.settle progress
    pure { progress with pending := .positionals [value] }

/-- Reads an argument that is no option. -/
def readPlain (progress : Progress σ) (value : String) : Except Stop (Progress σ) :=
  match progress.pending with
  | .switch switch none => pure { progress with pending := .switch switch (some value) }
  | _ => grammar.readPositional progress value

/-- Reads an argument after `--`. The name of a subcommand has no place there. -/
def readAfterEnd (progress : Progress σ) (value : String) : Except Stop (Progress σ) :=
  if grammar.positional.isNone && grammar.subcommands.contains value then throw .unknownArgument
  else grammar.readPositional progress value

/-- Reads an option or a plain argument. -/
def readArgument (progress : Progress σ) (argument : String) : Except Stop (Progress σ) :=
  match argument.toList with
  | '-' :: '-' :: rest =>
    let name := rest.takeWhile (· != '=')
    let value := match rest.dropWhile (· != '=') with
      | [] => none
      | _ :: value => some (String.ofList value)
    grammar.readName progress (String.ofList name) value
  | '-' :: letter :: letters => grammar.readLetters progress (letter :: letters)
  | _ => grammar.readPlain progress argument

/-- Reads arguments up to a subcommand, and the subcommand with the arguments after it. -/
def read : Progress σ → List String → Except Stop (Progress σ × Option (String × List String))
  | progress, [] => pure (progress, none)
  | progress, argument :: arguments => do
    if !progress.isCollecting && grammar.subcommands.contains argument then
      pure (progress, some (argument, arguments))
    else if argument = "--" then
      pure (← arguments.foldlM grammar.readAfterEnd progress, none)
    else
      read (← grammar.readArgument progress argument) arguments

end Grammar

/-! ## Help

What is said instead of running a command. -/

/-- The version of the program. -/
def versionText : String := "ec-guard 0.1.0"

/-- How the program is used. -/
def helpText : String := "\n".intercalate [
  "Check files against their .editorconfig rules",
  "",
  "Usage: ec-guard [OPTIONS] <COMMAND>",
  "",
  "Commands:",
  "  check [PATHS]...   Check files against their .editorconfig rules",
  "  init               Generate a default configuration file",
  "  config validate    Validate configuration file syntax and values",
  "  config show        Display the effective configuration",
  "  help               Print this message",
  "",
  "Options of all commands:",
  "  -v, --verbose          Increase output verbosity (-v, -vv for more)",
  "  -q, --quiet            Suppress non-essential output",
  "      --color <COLOR>    Control color output: auto, always or never",
  "      --no-config        Skip loading configuration file",
  "  -h, --help             Print help",
  "  -V, --version          Print version",
  "",
  "Exit codes: 0 - all files passed, 1 - errors found, 2 - configuration or runtime error"]

/-- What is said when a command line stands for no command. -/
def Stop.text : Stop → String
  | help | nothingGiven => helpText
  | version => versionText
  | missingSubcommand => "error: a subcommand is needed"
  | unknownSubcommand => "error: unknown subcommand"
  | unknownArgument => "error: unexpected argument"
  | conflict => "error: an option is given twice or together with one that it excludes"
  | superfluousValue => "error: an option is given a value that it does not take"
  | invalidValue => "error: a value is missing or not possible"
  | malformedValue => "error: a value has the wrong form"

end StyleCheck.CommandLine
