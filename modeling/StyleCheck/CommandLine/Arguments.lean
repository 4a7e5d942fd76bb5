import StyleCheck.Output.Format
import StyleCheck.Output.Style
import StyleCheck.Path.Basic
import StyleCheck.Settings

/-!
# Arguments

What a command line asks for: the command with its arguments, and what applies to all commands.
-/

namespace StyleCheck.CommandLine

/-- What applies to all commands, as far as it is given. -/
structure GlobalArguments where
  verbosity : Option Nat := none
  quiet : Bool := false
  color : Option Output.ColorChoice := none
  noConfig : Bool := false
  deriving DecidableEq, Repr

/-- The arguments, and those of an outer command where nothing is given. -/
def GlobalArguments.over (inner outer : GlobalArguments) : GlobalArguments where
  verbosity := inner.verbosity.or outer.verbosity
  quiet := inner.quiet || outer.quiet
  color := inner.color.or outer.color
  noConfig := inner.noConfig || outer.noConfig

/-- What to check, and how. -/
structure CheckArguments where
  /-- The files and directories to check; the current directory if there are none. -/
  paths : List Path := []
  config : Option Path := none
  format : Option Output.Format := none
  exclude : List String := []
  ignoreDefaults : Bool := false
  noGitignore : Bool := false
  spacesAfterTabs : Bool := false
  disable : DisabledChecks := {}
  /-- Only list the files. -/
  dryRun : Bool := false
  /-- How many files are checked at a time. -/
  jobs : Option Nat := none
  noParallel : Bool := false
  /-- The file that the report is written to. -/
  output : Option Path := none
  deriving DecidableEq, Repr

/-- Where the configuration template goes. -/
structure InitArguments where
  output : Path := ⟨".ec-guard.toml"⟩
  /-- Replace what is there. -/
  force : Bool := false
  deriving DecidableEq, Repr

/-- A command with its arguments. -/
inductive Command
  | check (arguments : CheckArguments)
  | init (arguments : InitArguments)
  | validateConfig (config : Path)
  | showConfig (config : Option Path)
  deriving DecidableEq, Repr

/-- What a command line asks for. -/
structure Invocation where
  verbosity : Nat := 0
  quiet : Bool := false
  color : Output.ColorChoice := .auto
  noConfig : Bool := false
  command : Command
  deriving DecidableEq, Repr

/-- A command and what applies to all commands. -/
def Invocation.of (given : GlobalArguments) (command : Command) : Invocation where
  verbosity := given.verbosity.getD 0
  quiet := given.quiet
  color := given.color.getD .auto
  noConfig := given.noConfig
  command := command

end StyleCheck.CommandLine
