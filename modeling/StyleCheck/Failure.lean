import StyleCheck.Disk.Basic
import StyleCheck.Exclude.Filter

/-!
# Failures

What stops a run, and how it is reported: a category for the heading, a message, the text of what
caused it, and a suggestion where there is one.
-/

namespace StyleCheck

/-- What stops a run. -/
inductive Failure
  /-- A configuration that makes no sense. -/
  | config (problem : String)
  | fileRead (path : Path) (cause : IoError)
  | invalidPattern (pattern : String) (cause : Exclude.GlobError)
  /-- A malformed line of an `.editorconfig` file; lines are counted from one. -/
  | editorConfig (path : Path) (line : Nat) (problem : String)
  | io (cause : IoError)
  | tomlParse (problem : String)
  | tomlSerialize (problem : String)
  | jsonSerialize (problem : String)
  | threadPool (problem : String)
  deriving DecidableEq, Repr

namespace Failure

/-- The heading under which the failure is reported. -/
def category : Failure → String
  | config _ | tomlParse _ | tomlSerialize _ => "Config"
  | fileRead _ _ => "FileRead"
  | invalidPattern _ _ => "Pattern"
  | editorConfig _ _ _ => "EditorConfig"
  | io _ => "IO"
  | jsonSerialize _ => "Output"
  | threadPool _ => "Runtime"

/-- The message of the failure. -/
def message : Failure → String
  | config problem => "Configuration error: " ++ problem
  | fileRead path _ => "Failed to read file: " ++ path.text
  | invalidPattern pattern _ => "Invalid glob pattern: " ++ pattern
  | editorConfig path line problem =>
    "Invalid .editorconfig " ++ path.text ++ ": line " ++ toString line ++ ": " ++ problem
  | io cause => "IO error: " ++ cause.text
  | tomlParse problem => "TOML parse error: " ++ problem
  | tomlSerialize problem => "TOML serialization error: " ++ problem
  | jsonSerialize problem => "JSON serialization error: " ++ problem
  | threadPool problem => "Failed to build thread pool: " ++ problem

/-- The text of what caused the failure, where something else did. -/
def detail : Failure → Option String
  | config _ | editorConfig _ _ _ => none
  | fileRead _ cause | io cause => some cause.text
  | invalidPattern _ cause => some cause.message
  | tomlParse problem | tomlSerialize problem | jsonSerialize problem | threadPool problem =>
    some problem

/-- What the user may do about the failure. -/
def suggestion : Failure → Option String
  | tomlParse _ => some "run `ec-guard config validate` to locate the problem"
  | invalidPattern _ _ => some "exclude patterns use glob syntax, e.g. \"**/vendor/**\""
  | fileRead _ cause =>
    if cause.kind = .notFound then some "check that the path exists and is spelled correctly"
    else none
  | _ => none

end Failure

end StyleCheck
