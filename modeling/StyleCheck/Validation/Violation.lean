/-!
# Violations

The checks, the ways in which a line or a file can break one, and the texts that report them.
-/

namespace StyleCheck

/-- What produced an error. -/
inductive Check
  | insertFinalNewline
  | endOfLine
  | trimTrailingWhitespace
  | indentStyle
  | indentSize
  | maxLineLength
  /-- The file could not be read, decoded or given settings. -/
  | file
  deriving DecidableEq, Repr

namespace Check

/-- The name of the check in reports. -/
def name : Check → String
  | insertFinalNewline => "insert_final_newline"
  | endOfLine => "end_of_line"
  | trimTrailingWhitespace => "trim_trailing_whitespace"
  | indentStyle => "indent_style"
  | indentSize => "indent_size"
  | maxLineLength => "max_line_length"
  | file => "file"

/-- The check of a name. -/
def ofName? (name : String) : Option Check :=
  [insertFinalNewline, endOfLine, trimTrailingWhitespace, indentStyle, indentSize, maxLineLength,
    file].find? (·.name == name)

end Check

/-- A broken rule. -/
inductive Violation
  | tabsInsteadOfSpaces
  | indentSize (size : Nat)
  | spacesInsteadOfTabs
  | trailingWhitespace
  | wrongFinalNewline
  | unexpectedFinalNewline
  | missingFinalNewline
  | mixedLineEndings
  | lineTooLong (length max : Nat)
  deriving DecidableEq, Repr

namespace Violation

/-- The check that the rule belongs to. -/
def check : Violation → Check
  | tabsInsteadOfSpaces | spacesInsteadOfTabs => .indentStyle
  | indentSize _ => .indentSize
  | trailingWhitespace => .trimTrailingWhitespace
  | wrongFinalNewline | unexpectedFinalNewline | missingFinalNewline => .insertFinalNewline
  | mixedLineEndings => .endOfLine
  | lineTooLong _ _ => .maxLineLength

/-- The text that reports the violation. -/
def message : Violation → String
  | tabsInsteadOfSpaces => "wrong indent style (tabs instead of spaces)"
  | indentSize size => "wrong amount of left-padding spaces (want multiple of " ++ toString size ++ ")"
  | spacesInsteadOfTabs => "wrong indentation type (spaces instead of tabs)"
  | trailingWhitespace => "trailing whitespace"
  | wrongFinalNewline => "wrong line endings or no final newline"
  | unexpectedFinalNewline => "no final newline expected"
  | missingFinalNewline => "final newline expected"
  | mixedLineEndings => "not all lines have the correct end of line character"
  | lineTooLong length max =>
    "line too long (" ++ toString length ++ " instead of " ++ toString max ++ ")"

end Violation

end StyleCheck
