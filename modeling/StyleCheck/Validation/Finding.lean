import StyleCheck.Validation.Violation

/-!
# Findings

An error found in a file, and consolidation: errors with one message on consecutive lines become
one finding that says how many further lines it covers. Errors of the whole file stay as they
are, and the order of first occurrence is kept.
-/

namespace StyleCheck

/-- An error found in a file. -/
structure Finding where
  /-- The line, counted from zero; `none` for an error of the whole file. -/
  line : Option Nat
  check : Check
  message : String
  /-- How many lines directly after `line` have the same error. -/
  further : Nat := 0
  deriving DecidableEq, Repr

namespace Finding

/-- The finding that reports a violation. -/
def ofViolation (line : Option Nat) (violation : Violation) : Finding :=
  { line, check := violation.check, message := violation.message }

/-- The first line as users count, from one. -/
def firstLine (finding : Finding) : Option Nat := finding.line.map (· + 1)

/-- The last line as users count, from one. -/
def lastLine (finding : Finding) : Option Nat := finding.line.map (· + 1 + finding.further)

/-- Whether an error with this message on this line continues the finding. -/
def continuedBy (finding : Finding) (message : String) (line : Nat) : Bool :=
  finding.message == message &&
    match finding.line with
    | some start => start + finding.further + 1 == line
    | none => false

/-- Add a finding to those merged so far, which are in reverse order. It goes to the latest of
them that it continues, or else in front. -/
def merge (finding : Finding) (merged : List Finding) : List Finding :=
  match finding.line with
  | none => finding :: merged
  | some line =>
    match extend line merged with
    | some extended => extended
    | none => finding :: merged
where
  /-- The findings with the first one that is continued made longer. -/
  extend (line : Nat) : List Finding → Option (List Finding)
    | [] => none
    | run :: others =>
      if run.continuedBy finding.message line then
        some ({ run with further := run.further + 1 + finding.further } :: others)
      else (extend line others).map (run :: ·)

/-- Merge errors with the same message on consecutive lines. -/
def consolidate (findings : List Finding) : List Finding :=
  (findings.foldl (fun merged finding => finding.merge merged) []).reverse

end Finding

end StyleCheck
