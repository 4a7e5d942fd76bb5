import StyleCheck.Config.Basic
import StyleCheck.Toml.Writer

/-!
# Texts of configurations

A configuration in effect is shown as a TOML document, and a project starts with a template.
-/

namespace StyleCheck.Config

/-! ## Writing configurations

A configuration as the text of a TOML document. Options that are unset are left out; all others
are written, defaults included. Lists of two or more strings take one line per string. -/

/-- A string. -/
def stringText (s : String) : String := String.ofList (Toml.write s.toList)

/-- A truth value. -/
def booleanText (b : Bool) : String := if b then "true" else "false"

/-- A list of strings. -/
def stringsText : List String → String
  | [] => "[]"
  | [s] => "[" ++ stringText s ++ "]"
  | list => "[\n" ++ String.join (list.map fun s => "    " ++ stringText s ++ ",\n") ++ "]"

/-- The line of an option. -/
def optionLine (key text : String) : String := key ++ " = " ++ text ++ "\n"

/-- The lines of the options. -/
def optionLines (config : Config) : List String :=
  (config.version.map fun version => optionLine "version" (stringText version)).toList ++
  [optionLine "exclude" (stringsText config.exclude),
    optionLine "ignore_defaults" (booleanText config.ignoreDefaults),
    optionLine "gitignore" (booleanText config.gitignore),
    optionLine "spaces_after_tabs" (booleanText config.spacesAfterTabs),
    optionLine "max_line_length" (toString config.maxLineLength)] ++
  (config.charset.map fun charset => optionLine "charset" (stringText charset)).toList ++
  [optionLine "parallel" (booleanText config.parallel),
    optionLine "format" (stringText config.format.name)]

/-- The lines of the disabled checks. -/
def switchLines (checks : DisabledChecks) : List String := [
  optionLine "trim_trailing_whitespace" (booleanText checks.trimTrailingWhitespace),
  optionLine "end_of_line" (booleanText checks.endOfLine),
  optionLine "insert_final_newline" (booleanText checks.insertFinalNewline),
  optionLine "indentation" (booleanText checks.indentation),
  optionLine "indent_size" (booleanText checks.indentSize),
  optionLine "max_line_length" (booleanText checks.maxLineLength)]

/-- The text of a configuration. -/
def render (config : Config) : String :=
  String.join (config.optionLines ++ ["\n[disable]\n"] ++ switchLines config.disable)

/-! ## The configuration template

The configuration file that a project starts with. It spells out the defaults, and its comments
say what each key is for. -/

/-- The lines of the configuration template. -/
def templateLines : List String := [
  "# ec-guard configuration file",
  "# Rules come from .editorconfig; this file only tunes how ec-guard runs.",
  "version = \"1\"",
  "",
  "# Extra exclude patterns (glob syntax), added to the built-in defaults",
  "exclude = [",
  "    # \"**/testdata/**\",",
  "]",
  "",
  "# Do not apply the built-in excludes (VCS dirs, node_modules, lock files, binaries)",
  "ignore_defaults = false",
  "",
  "# Respect .gitignore files",
  "gitignore = true",
  "",
  "# Allow spaces after the leading tabs of tab-indented lines (alignment)",
  "spaces_after_tabs = false",
  "",
  "# Line length limit for files whose .editorconfig sets none (0 = no limit)",
  "max_line_length = 0",
  "",
  "# Charset used for line length counting instead of the .editorconfig one",
  "# charset = \"utf-8\"",
  "",
  "# Check files in parallel",
  "parallel = true",
  "",
  "# Report format: default, gcc, github-actions or codeclimate",
  "format = \"default\"",
  "",
  "# Switch checks off regardless of .editorconfig",
  "[disable]",
  "trim_trailing_whitespace = false",
  "end_of_line = false",
  "insert_final_newline = false",
  "indentation = false",
  "indent_size = false",
  "max_line_length = false"]

/-- The text of the configuration template. -/
def template : String := String.join (templateLines.map (· ++ "\n"))

end StyleCheck.Config
