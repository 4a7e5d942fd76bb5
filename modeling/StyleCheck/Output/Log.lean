import StyleCheck.Failure
import StyleCheck.Output.Style

/-!
# Diagnostics

What is written beside the report: errors with their cause and a suggestion, warnings, and traces
of what the program does. Errors are always shown, warnings unless diagnostics are quiet, and
traces from a verbosity on.
-/

namespace StyleCheck.Output

/-- How diagnostics are written. -/
structure Log where
  colors : Bool := false
  verbosity : Nat := 0
  quiet : Bool := false
  deriving DecidableEq, Repr

namespace Log

/-- An error in parts. -/
structure Problem where
  category : String
  message : String
  detail : Option String := none
  suggestion : Option String := none
  deriving DecidableEq, Repr

/-- The parts of a failure. -/
def Problem.ofFailure (failure : Failure) : Problem where
  category := failure.category
  message := failure.message
  detail := failure.detail
  suggestion := failure.suggestion

/-- The text for an error. -/
def problem (log : Log) (problem : Problem) : String :=
  let paint := Style.paint log.colors
  let detail := problem.detail.map fun detail => "  " ++ paint [.dim] ("× " ++ detail) ++ "\n"
  let suggestion := problem.suggestion.map fun suggestion =>
    "  " ++ paint [.cyan] "help:" ++ " " ++ suggestion ++ "\n"
  paint [.bold, .red] ("✖ " ++ problem.category ++ ":") ++ " " ++ problem.message ++ "\n" ++
    detail.getD "" ++ suggestion.getD ""

/-- The text for a failure. -/
def failure (log : Log) (failure : Failure) : String := log.problem (.ofFailure failure)

/-- The text for a warning. -/
def warning (log : Log) (message : String) : String :=
  if log.quiet then ""
  else Style.paint log.colors [.bold, .yellow] "⚠ Warning:" ++ " " ++ message ++ "\n"

/-- The text for a trace that is shown from a verbosity on. -/
def trace (log : Log) (level : Nat) (message : String) : String :=
  if log.quiet || log.verbosity < level then ""
  else
    let label := if 2 ≤ level then "debug:" else "info:"
    Style.paint log.colors [.dim] label ++ " " ++ message ++ "\n"

end Log

end StyleCheck.Output
