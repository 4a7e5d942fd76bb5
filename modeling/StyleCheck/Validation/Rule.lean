import StyleCheck.Regex.Basic
import StyleCheck.Settings
import StyleCheck.Text.Basic
import StyleCheck.Text.Utf8
import StyleCheck.Validation.Violation

/-!
# Rules

Each rule looks at one line, or at the whole content, and gives the violation it finds, if any.
The shape of an indentation is an expression that must match a start of the line: indentation,
then a character that is neither a space nor a tab, or the end of the line. A line of a block
comment may be indented by one more space before its star.
-/

namespace StyleCheck.Rule

/-! ## Indentation -/

/-- A space or a tab. -/
def isPadding (c : Char) : Bool := c == ' ' || c == '\t'

/-- What follows an indentation: other text, or nothing. -/
def textOrEnd : Regex Char := .alt (.one fun c => !isPadding c) .atEnd

/-- The start of a block comment's further line: a space and a star, then a space, a tab or a
slash, or nothing. -/
def commentStar : Regex Char :=
  .seq (.symbol ' ') (.seq (.symbol '*') (.alt (.one fun c => isPadding c || c == '/') .atEnd))

/-- Any number of spaces. -/
def spaceIndent : Regex Char := .seq (.many (· == ' ')) textOrEnd

/-- A multiple of `size` spaces, one more before a comment's star. -/
def sizedIndent (size : Nat) : Regex Char :=
  .seq (.blocks (· == ' ') size) (.alt textOrEnd commentStar)

/-- Any number of tabs, and a space before a comment's star. -/
def tabIndent : Regex Char := .seq (.many (· == '\t')) (.alt textOrEnd commentStar)

/-- Any number of tabs, then spaces: at most one if there is no tab. -/
def tabIndentThenSpaces : Regex Char :=
  .seq
    (.alt (.seq (.many (· == '\t')) (.optional (.symbol ' ')))
      (.seq (.many1 (· == '\t')) (.many1 (· == ' '))))
    textOrEnd

/-- From this size on, the size of an indentation is not checked. -/
def uncheckedSize : Nat := 327630

/-- Indentation by spaces: no tab, and a multiple of `size` spaces where `size` is set and its
check is on. -/
def space (line : List Char) (size : Nat) (options : CheckOptions) : Option Violation :=
  if line.isEmpty then none
  else if !spaceIndent.isPrefixMatch line then some .tabsInsteadOfSpaces
  else if options.disabled.indentSize || size == 0 || uncheckedSize ≤ size then none
  else if !(sizedIndent size).isPrefixMatch line then some (.indentSize size)
  else none

/-- Indentation by tabs: nothing but tabs, unless spaces may follow them. -/
def tab (line : List Char) (options : CheckOptions) : Option Violation :=
  if line.isEmpty then none
  else if tabIndent.isPrefixMatch line ||
      (options.spacesAfterTabs && tabIndentThenSpaces.isPrefixMatch line) then none
  else some .spacesInsteadOfTabs

/-- Indentation in the given style; any indentation where no style is set. -/
def indentation (line : List Char) (style : Option IndentStyle) (size : Nat)
    (options : CheckOptions) : Option Violation :=
  match style with
  | some .space => space line size options
  | some .tab => tab line options
  | none => none

/-! ## Line and file ends -/

/-- No space and no tab at the end of a line. -/
def trailingWhitespace (line : List Char) (enabled : Bool) : Option Violation :=
  if enabled && (line.getLast?.map isPadding).getD false then some .trailingWhitespace else none

/-- Whether the content ends with a line feed or a carriage return. -/
def endsInNewline (content : List Char) : Bool :=
  (content.getLast?.map fun c => c == '\n' || c == '\r').getD false

/-- Whether the content ends with exactly this end of line. -/
def endsWith (content : List Char) (ending : EndOfLine) : Bool :=
  (Text.dropWordAtEnd? ending.sequence content).isSome &&
    !(ending == .lf && (Text.dropWordAtEnd? EndOfLine.crlf.sequence content).isSome)

/-- How the content ends: with exactly the declared end of line where one is declared and wanted,
else with any or none as wanted. -/
def finalNewline (content : List Char) (wanted : Option Bool) (ending : Option EndOfLine) :
    Option Violation :=
  match wanted, ending with
  | some true, some ending => if endsWith content ending then none else some .wrongFinalNewline
  | some true, none => if endsInNewline content then none else some .missingFinalNewline
  | some false, _ => if endsInNewline content then some .unexpectedFinalNewline else none
  | none, _ => none

/-- How often a carriage return is followed by a line feed. -/
def pairs : List Char → Nat
  | '\r' :: '\n' :: rest => pairs rest + 1
  | _ :: rest => pairs rest
  | [] => 0

/-- Every end of line is the declared one. The test counts: each pair of carriage return and line
feed is also one of either, so all three counts agree only if there is nothing else. -/
def lineEnding (content : List Char) (ending : Option EndOfLine) : Option Violation :=
  let feeds := content.count '\n'
  let returns := content.count '\r'
  let valid := match ending with
    | none => true
    | some .lf => returns == 0 && pairs content == 0
    | some .cr => feeds == 0 && pairs content == 0
    | some .crlf => pairs content == feeds && feeds == returns
  if valid then none else some .mixedLineEndings

/-! ## Line length -/

/-- The lower-case form of an ASCII letter; every other character itself. -/
def asciiLower (c : Char) : Char := if 'A' ≤ c ∧ c ≤ 'Z' then Char.ofNat (c.toNat + 32) else c

/-- Whether lines of the charset are measured in characters. -/
def countsCharacters (charset : Option String) : Bool :=
  match charset with
  | none => false
  | some name =>
    let name := name.toList.map asciiLower
    name == "utf-8".toList || name == "utf-8-bom".toList

/-- The length of a line: in characters, a byte order mark in front left out, or in bytes. -/
def lineLength (line : List Char) (charset : Option String) : Nat :=
  if countsCharacters charset then
    match line with
    | '\uFEFF' :: rest => rest.length
    | _ => line.length
  else (Text.Utf8.encode line).length

/-- No line is longer than `max`, where a limit is set. -/
def maxLineLength (line : List Char) (max : Nat) (charset : Option String) : Option Violation :=
  let length := lineLength line charset
  if max ≠ 0 ∧ max < length then some (.lineTooLong length max) else none

/-! ## Remembering expressions

The expression for a size of indentation does not depend on the line, so it is made when a line
first asks for that size and is remembered for all lines and files after it. A size that is too
large for an expression leaves nothing behind and is tried again by the next line that asks. -/

/-- The expression for a size of indentation; none if it would be too large. -/
def sizedIndent? (size : Nat) : Option (Regex Char) :=
  if size < uncheckedSize then some (sizedIndent size) else none

/-- The expressions made so far with their sizes, the latest first. -/
abbrev IndentMemory := List (Nat × Regex Char)

namespace IndentMemory

/-- The expression for a size, remembered or made now. -/
def indentFor (memory : IndentMemory) (size : Nat) : Option (Regex Char) × IndentMemory :=
  match memory.lookup size with
  | some indent => (some indent, memory)
  | none =>
    match sizedIndent? size with
    | some indent => (some indent, (size, indent) :: memory)
    | none => (none, memory)

end IndentMemory

/-- Indentation by spaces, with the expressions of a memory. -/
def spaceRecalling (memory : IndentMemory) (line : List Char) (size : Nat)
    (options : CheckOptions) : Option Violation × IndentMemory :=
  if line.isEmpty then (none, memory)
  else if !spaceIndent.isPrefixMatch line then (some .tabsInsteadOfSpaces, memory)
  else if options.disabled.indentSize || size == 0 then (none, memory)
  else
    match memory.indentFor size with
    | (some indent, memory) =>
      (if !indent.isPrefixMatch line then some (.indentSize size) else none, memory)
    | (none, memory) => (none, memory)

/-- A line whose indentation by spaces is checked. -/
structure SpaceCheck where
  line : List Char
  size : Nat
  options : CheckOptions

/-- The memory after further lines were checked. -/
def IndentMemory.after (memory : IndentMemory) (checks : List SpaceCheck) : IndentMemory :=
  checks.foldl (fun memory check =>
    (spaceRecalling memory check.line check.size check.options).2) memory

end StyleCheck.Rule
