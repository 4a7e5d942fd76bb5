import StyleCheck.Text.Basic
import StyleCheck.Text.Lines

/-!
# Editor settings and check options

`EditorSettings` are the formatting rules of one file, as its `.editorconfig` files give them;
`CheckOptions` are the options of a whole run. `CheckOptions.effective` combines the two.

Zero stands for an unset number, `none` for any other unset value; a rule whose setting is unset
is not enforced.
-/

namespace StyleCheck

/-- What lines are indented with. -/
inductive IndentStyle
  | space
  | tab
  deriving DecidableEq, Repr

namespace IndentStyle

/-- The name of the style in configuration files. -/
def name : IndentStyle → String
  | space => "space"
  | tab => "tab"

/-- The style of a name. -/
def ofName? (name : String) : Option IndentStyle := [space, tab].find? (·.name == name)

end IndentStyle

/-- The formatting rules of one file. -/
structure EditorSettings where
  indentStyle : Option IndentStyle := none
  indentSize : Nat := 0
  endOfLine : Option EndOfLine := none
  insertFinalNewline : Option Bool := none
  trimTrailingWhitespace : Bool := false
  maxLineLength : Nat := 0
  charset : Option String := none
  deriving DecidableEq, Repr

/-- The checks that a run switches off whatever the files say. -/
structure DisabledChecks where
  trimTrailingWhitespace : Bool := false
  endOfLine : Bool := false
  insertFinalNewline : Bool := false
  indentation : Bool := false
  indentSize : Bool := false
  maxLineLength : Bool := false
  deriving DecidableEq, Repr

/-- The options of a run that every check reads. -/
structure CheckOptions where
  disabled : DisabledChecks := {}
  /-- Accept spaces after the leading tabs of a line indented by tabs. -/
  spacesAfterTabs : Bool := false
  /-- The line length limit of files that set none. -/
  maxLineLength : Nat := 0
  /-- The charset that replaces the one of the file when lines are measured. -/
  charset : Option String := none
  deriving DecidableEq, Repr

namespace CheckOptions

/-- The settings of a file with the defaults and overrides of the run. -/
def effective (options : CheckOptions) (settings : EditorSettings) : EditorSettings :=
  { settings with
    maxLineLength :=
      if settings.maxLineLength = 0 then options.maxLineLength else settings.maxLineLength
    charset := options.charset.or settings.charset }

end CheckOptions

end StyleCheck
