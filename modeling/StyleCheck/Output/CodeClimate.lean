import StyleCheck.Digest.Sha256
import StyleCheck.Output.Entry
import StyleCheck.Text.Utf8

/-!
# Code Climate issues

One issue per entry, as an array of JSON objects.
-/

namespace StyleCheck.Output

/-! ## JSON

JSON values and their indented text: two blanks per level, one item or field per line, nothing
between the brackets of what is empty. Strings escape quotes, backslashes and control characters. -/

/-- A JSON value. Fields keep their order. -/
inductive Json
  | string (s : String)
  | number (n : Nat)
  | array (items : List Json)
  | object (fields : List (String × Json))

namespace Json

/-- A character of a string. -/
def escape (c : Char) : List Char :=
  if c = '"' then ['\\', '"']
  else if c = '\\' then ['\\', '\\']
  else if c = '\n' then ['\\', 'n']
  else if c = '\r' then ['\\', 'r']
  else if c = '\t' then ['\\', 't']
  else if c = '\x08' then ['\\', 'b']
  else if c = '\x0c' then ['\\', 'f']
  else if c.toNat < 0x20 then
    ['\\', 'u', '0', '0', Digest.Sha256.hexDigit (c.toNat / 16),
      Digest.Sha256.hexDigit (c.toNat % 16)]
  else [c]

/-- A string between quotes. -/
def quoted (s : String) : String := String.ofList ('"' :: s.toList.flatMap escape ++ ['"'])

/-- The start of a line at a level. -/
def newLine (level : Nat) : String := "\n" ++ String.ofList (List.replicate (2 * level) ' ')

/-- Texts between brackets, one per line; the brackets alone if there are none. -/
def bracketed (opening closing : String) (level : Nat) (texts : List String) : String :=
  if texts.isEmpty then opening ++ closing
  else
    opening ++ newLine (level + 1) ++ (("," ++ newLine (level + 1)).intercalate texts) ++
      newLine level ++ closing

mutual

/-- The text of a value at a level. -/
def render (level : Nat) : Json → String
  | string s => quoted s
  | number n => toString n
  | array items => bracketed "[" "]" level (renderItems level items)
  | object fields => bracketed "\x7b" "\x7d" level (renderFields level fields)

/-- The texts of the items of an array at a level. -/
def renderItems (level : Nat) : List Json → List String
  | [] => []
  | item :: items => render (level + 1) item :: renderItems level items

/-- The texts of the fields of an object at a level. -/
def renderFields (level : Nat) : List (String × Json) → List String
  | [] => []
  | (key, value) :: fields =>
    (quoted key ++ ": " ++ render (level + 1) value) :: renderFields level fields

end

end Json

end StyleCheck.Output

namespace StyleCheck.Output.CodeClimate

/-! ## Code Climate issues

One issue per entry, as an array of JSON objects. The fingerprint of an issue is the hash of its
identity: path, line, repeat count and message. Errors of the whole file are placed on line 1. -/

/-- An issue. Lines are counted from one. -/
structure Issue where
  check : Check
  description : String
  /-- What the fingerprint is the hash of. -/
  identity : String
  path : String
  firstLine : Nat
  lastLine : Nat
  deriving DecidableEq, Repr

namespace Issue

/-- The issue of an entry. -/
def ofEntry (entry : Entry) : Issue :=
  let finding := entry.finding
  { check := finding.check
    description := finding.message
    identity := entry.path ++ ":" ++ toString (finding.firstLine.getD 0) ++ ":" ++
      toString finding.further ++ ":" ++ finding.message
    path := entry.path
    firstLine := finding.firstLine.getD 1
    lastLine := finding.lastLine.getD 1 }

/-- The fingerprint of the issue. -/
def fingerprint (issue : Issue) : String :=
  Digest.Sha256.hex (Digest.Sha256.hash (Text.Utf8.encode issue.identity.toList))

/-- The issue as a JSON object. -/
def json (issue : Issue) : Json := .object [
  ("check_name", .string issue.check.name),
  ("description", .string issue.description),
  ("fingerprint", .string issue.fingerprint),
  ("severity", .string "minor"),
  ("location", .object [
    ("path", .string issue.path),
    ("lines", .object [("begin", .number issue.firstLine), ("end", .number issue.lastLine)])])]

end Issue

/-- The issues of several reports. -/
def issues (reports : List Report) : List Issue := (entries reports).map Issue.ofEntry

/-- The text of the array of issues. -/
def render (reports : List Report) : String :=
  (Json.array ((issues reports).map Issue.json)).render 0 ++ "\n"

end StyleCheck.Output.CodeClimate
