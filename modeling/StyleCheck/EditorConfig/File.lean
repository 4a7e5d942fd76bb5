import StyleCheck.Section.Glob
import StyleCheck.Settings
import StyleCheck.Text.Basic
import StyleCheck.Text.Case
import StyleCheck.Text.Lines

/-!
# `.editorconfig` files

A file is a sequence of lines: blank lines and comments, which say nothing, section headers
`[pattern]`, and assignments `key = value`. An assignment belongs to the section before it; before
the first header only `root` means something. Keys are case-insensitive, and so are the values of
the known ones.

Reading goes in two steps: `Line.read` says what a single line is, and `Contents.add` puts a line
into the file.
-/

namespace StyleCheck.EditorConfig

/-! ## Properties

Key and value pairs in the order in which the keys were first set; setting a key again keeps its
place. `settings` reads the known ones; a value that is not understood counts as unset. -/

/-- Key and value pairs with distinct keys, in the order of first assignment. -/
abbrev Properties := List (String × String)

namespace Properties

/-- Set a key: in its place if it has one, else at the end. -/
def set (key value : String) : Properties → Properties
  | [] => [(key, value)]
  | (k, v) :: rest => if k = key then (k, value) :: rest else (k, v) :: set key value rest

/-- Set the keys of a second list one by one. -/
def setAll (properties more : Properties) : Properties :=
  more.foldl (fun properties (key, value) => properties.set key value) properties

/-- The value of a key. -/
def value? (properties : Properties) (key : String) : Option String := properties.lookup key

/-- The value that takes a property back. -/
def unsetValue : String := "unset"

/-- The properties without those that are taken back. -/
def withoutUnset (properties : Properties) : Properties :=
  properties.filter fun (_, value) => value != unsetValue

/-- The value of a key as a number. -/
def number? (properties : Properties) (key : String) : Option Nat :=
  (properties.value? key).bind fun value => Text.size? value.toList

/-- The settings that the properties give. An indentation size of `tab` means the width of a
tab. -/
def settings (properties : Properties) : EditorSettings where
  indentStyle := (properties.value? "indent_style").bind IndentStyle.ofName?
  indentSize :=
    let key := if properties.value? "indent_size" = some "tab" then "tab_width" else "indent_size"
    (properties.number? key).getD 0
  endOfLine := (properties.value? "end_of_line").bind EndOfLine.ofName?
  insertFinalNewline :=
    match properties.value? "insert_final_newline" with
    | some "true" => some true
    | some "false" => some false
    | _ => none
  trimTrailingWhitespace := properties.value? "trim_trailing_whitespace" == some "true"
  maxLineLength := (properties.number? "max_line_length").getD 0
  charset := properties.value? "charset"

end Properties

/-! ## Lines -/

/-- What is wrong with a line. -/
inductive LineFault
  | unterminatedHeader
  | noEqualsSign
  | noName
  deriving DecidableEq, Repr

/-- The text that reports the fault. -/
def LineFault.message : LineFault → String
  | unterminatedHeader => "unterminated section header"
  | noEqualsSign => "expected `key = value`"
  | noName => "missing property name"

/-- What a line says. -/
inductive Line
  | nothing
  | header (pattern : List Char)
  | assignment (key value : String)
  deriving DecidableEq, Repr

/-- The keys whose values are case-insensitive. -/
def knownKeys : List String :=
  ["root", "indent_style", "indent_size", "tab_width", "end_of_line", "charset",
    "insert_final_newline", "trim_trailing_whitespace", "max_line_length"]

/-- What an assignment says, given the texts on both sides of its first `=`. -/
def Line.assign (key value : List Char) : Except LineFault Line :=
  let key := Text.lower (Text.trim key)
  if key.isEmpty then .error .noName
  else
    let key := String.ofList key
    let value := Text.trim value
    .ok (.assignment key
      (String.ofList (if knownKeys.contains key then Text.lower value else value)))

/-- What a line says. -/
def Line.read (line : List Char) : Except LineFault Line :=
  match Text.trim line with
  | [] => .ok .nothing
  | '#' :: _ | ';' :: _ => .ok .nothing
  | '[' :: rest =>
    match rest.getLast? with
    | some ']' => .ok (.header (Text.trim rest.dropLast))
    | _ => .error .unterminatedHeader
  | text =>
    match Text.cutAt '=' text with
    | some (key, value) => Line.assign key value
    | none => .error .noEqualsSign

/-! ## Files -/

/-- A section: its header and its properties. -/
structure Section where
  pattern : List Char
  properties : Properties
  deriving DecidableEq, Repr

/-- What a file says. -/
structure Contents where
  /-- The directories above are not searched. -/
  root : Bool := false
  sections : List Section := []
  deriving DecidableEq, Repr

namespace Contents

/-- Set a property of the last section. -/
def setInLast (key value : String) : List Section → List Section
  | [] => []
  | [last] => [{ last with properties := last.properties.set key value }]
  | first :: others => first :: setInLast key value others

/-- The contents with one more line. -/
def add (contents : Contents) : Line → Contents
  | .nothing => contents
  | .header pattern => { contents with sections := contents.sections ++ [⟨pattern, []⟩] }
  | .assignment key value =>
    if contents.sections.isEmpty then
      if key = "root" then { contents with root := value == "true" } else contents
    else { contents with sections := setInLast key value contents.sections }

/-- A malformed line: its number, counted from one, and what is wrong with it. -/
structure LineError where
  line : Nat
  fault : LineFault
  deriving DecidableEq, Repr

/-- Add lines to the contents, the first of them with number `number`. -/
def addLines (contents : Contents) (number : Nat) : List (List Char) → Except LineError Contents
  | [] => .ok contents
  | line :: lines =>
    match Line.read line with
    | .error fault => .error ⟨number, fault⟩
    | .ok read => addLines (contents.add read) (number + 1) lines

/-- A text without the byte order mark that it may start with. -/
def withoutMark : List Char → List Char
  | '\uFEFF' :: rest => rest
  | text => text

/-- What the text of a file says. -/
def parse (text : List Char) : Except LineError Contents :=
  addLines {} 1 (Text.records (withoutMark text))

end Contents

namespace Section

/-- Whether the section applies to a path relative to the directory of its file. A header with an
invalid pattern applies to none. -/
def appliesTo (sec : Section) (path : List Char) : Bool :=
  (Section.Glob.ofHeader? sec.pattern).any (·.isMatch path)

end Section

end StyleCheck.EditorConfig
