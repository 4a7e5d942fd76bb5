import StyleCheck.Exclude.Filter
import StyleCheck.Text.Basic
import StyleCheck.Text.Utf8

/-!
# Ignore rules

The lines of an ignore file. A line names what is skipped by a glob, or with `!` in front what is
kept although an earlier line skips it; of the lines that match, the last one decides. Paths are
taken from the directory of the ignore file.

A glob without a `/` in front or inside matches in every directory. A `/` at the end asks for a
directory, and `**` at the end for what is inside a directory. Blank lines, comments after `#` and
globs that cannot be read are passed over, and a line that is no UTF-8 ends the file.
-/

namespace StyleCheck.Ignore

/-- What a rule says of a path that it matches. -/
inductive Verdict
  | skip
  | keep
  deriving DecidableEq, Repr

/-- A rule of an ignore file. -/
structure Rule where
  glob : Exclude.Glob
  verdict : Verdict
  directoriesOnly : Bool

namespace Rule

/-- The line without blanks at its end, unless the last one is escaped. -/
def dropTrailingBlanks (line : List Char) : List Char :=
  if (Text.dropWordAtEnd? ['\\', ' '] line).isSome then line else Text.trimEnd line

/-- What is before a slash at the end, without a backslash before it. -/
def dropTrailingSlash? (line : List Char) : Option (List Char) :=
  (Text.dropWordAtEnd? ['/'] line).map fun line =>
    (Text.dropWordAtEnd? ['\\'] line).getD line

/-- What starts a glob that matches in every directory. -/
def anywhere : List Char := ['*', '*', '/']

/-- The glob that a rule stands for, given whether it is bound to its directory. -/
def globText (bound : Bool) (line : List Char) : List Char :=
  let isAnywhere := (Text.dropWord? anywhere line).isSome || line == ['*', '*']
  let text := if bound || line.contains '/' || isAnywhere then line else anywhere ++ line
  if (Text.dropWordAtEnd? ['/', '*', '*'] text).isSome then text ++ ['/', '*'] else text

/-- The rule of a line that is no comment and not blank, in parts: what it says of a path, whether
it is bound to its directory, and the rest of the line. -/
def readMarks : List Char → Verdict × Bool × List Char
  | '\\' :: '!' :: rest => (.skip, false, '!' :: rest)
  | '\\' :: '#' :: rest => (.skip, false, '#' :: rest)
  | '!' :: '/' :: rest => (.keep, true, rest)
  | '!' :: rest => (.keep, false, rest)
  | '/' :: rest => (.skip, true, rest)
  | line => (.skip, false, line)

/-- The rule of a line; none for a blank line, a comment or a glob that cannot be read. -/
def ofLine? (line : List Char) : Option Rule :=
  let text := dropTrailingBlanks line
  if line.head? = some '#' ∨ text = [] then none
  else
    let (verdict, bound, rest) := readMarks text
    let name := dropTrailingSlash? rest
    match Exclude.Glob.ofPattern .ignoreFile (String.ofList (globText bound (name.getD rest))) with
    | .ok glob => some { glob, verdict, directoriesOnly := name.isSome }
    | .error _ => none

/-- The lines of an ignore file, up to the first one that is no UTF-8. -/
def readLines : List (List UInt8) → List (List Char)
  | [] => []
  | [line] => (Text.Utf8.decode? line).toList
  | line :: more =>
    match Text.Utf8.decode? ((Text.dropWordAtEnd? [0x0D] line).getD line) with
    | some text => text :: readLines more
    | none => []

/-- The rules of an ignore file. A byte order mark in front of the first line is no part of it. -/
def ofFile (content : List UInt8) : List Rule :=
  match readLines (Text.piecesAt 0x0A content) with
  | [] => []
  | first :: more => (first.dropWhile (· == '\uFEFF') :: more).filterMap ofLine?

/-- Whether the rule matches a path. -/
def isMatch (rule : Rule) (path : String) (isDirectory : Bool) : Bool :=
  (isDirectory || !rule.directoriesOnly) && rule.glob.isMatch path

/-- What some rules say of a path: the last one that matches decides. -/
def verdict? (rules : List Rule) (path : String) (isDirectory : Bool) : Option Verdict :=
  (rules.reverse.find? (·.isMatch path isDirectory)).map (·.verdict)

end Rule

end StyleCheck.Ignore
