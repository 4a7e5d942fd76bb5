import StyleCheck.Regex.Syntax
import StyleCheck.Section.Pattern
import StyleCheck.Text.Basic

/-!
# Section globs

A section pattern made ready for matching: a regular expression with one group per integer range,
and the bounds of the ranges in the order of the groups. A path matches if the expression matches
all of it and, in the first match, every group that took part stands for an integer within its
own bounds.
-/

namespace StyleCheck.Section

/-! ## The text of the expression

The text of the regular expression of a section pattern: what each piece is written as, from left
to right. Only integer ranges are written as groups that report their text, so the groups are
numbered like the ranges. -/

/-- The ASCII characters that are neither letters, digits, spaces nor controls. -/
def isPunctuation (c : Char) : Bool :=
  ('!' ≤ c && c ≤ '/') || (':' ≤ c && c ≤ '@') || ('[' ≤ c && c ≤ '`') || ('\x7b' ≤ c && c ≤ '~')

/-- A character as it is written in a set. A hyphen keeps its meaning there. -/
def setSource (c : Char) : List Char := if c != '-' && isPunctuation c then ['\\', c] else [c]

/-- One character other than the separator. -/
def oneSource : List Char := ['[', '^', '/', ']']

/-- A sign, or none, and at least one digit, as a group that reports its text. -/
def integerSource : List Char :=
  ['(', '[', '+', '-', ']', '?', '[', '0', '-', '9', ']', '+', ')']

mutual

/-- The text of a piece. -/
def Piece.source : Piece → List Char
  | .char c => Regex.escape c
  | .one => oneSource
  | .star => oneSource ++ ['*']
  | .anything => ['.', '*']
  | .directories => ['(', '?', ':', '.', '*', '/', ')', '?']
  | .bracket negated body =>
    '[' :: ((if negated then ['^'] else []) ++ body.flatMap setSource ++ [']'])
  | .range _ _ => integerSource
  | .either parts => ['(', '?', ':'] ++ partsSource parts ++ [')']

/-- The text of a pattern. -/
def patternSource : List Piece → List Char
  | [] => []
  | piece :: pieces => piece.source ++ patternSource pieces

/-- The text of a choice between patterns. -/
def partsSource : List (List Piece) → List Char
  | [] => []
  | [part] => patternSource part
  | part :: parts => patternSource part ++ '|' :: partsSource parts

end

mutual

/-- The bounds of the integer ranges of a piece, from left to right. -/
def Piece.bounds : Piece → List (Int × Int)
  | .range low high => [(low, high)]
  | .either parts => partsBounds parts
  | _ => []

/-- The bounds of the integer ranges of a pattern, from left to right. -/
def patternBounds : List Piece → List (Int × Int)
  | [] => []
  | piece :: pieces => piece.bounds ++ patternBounds pieces

/-- The bounds of the integer ranges of several patterns, from left to right. -/
def partsBounds : List (List Piece) → List (Int × Int)
  | [] => []
  | part :: parts => patternBounds part ++ partsBounds parts

end

/-- The text of the expression that a pattern is matched by. -/
def source (pattern : Pattern) : List Char := '^' :: (patternSource pattern ++ ['$'])

/-! ## Globs -/

/-- A section pattern made ready for matching. -/
structure Glob where
  regex : Regex Char
  bounds : List (Int × Int)

namespace Glob

/-- The glob of a section header; `none` if a bracket set is invalid. -/
def ofHeader? (header : List Char) : Option Glob :=
  let pattern := Section.ofHeader header
  (Regex.ofSource? (source pattern)).map fun regex => ⟨regex, patternBounds pattern⟩

/-- Whether the text is an integer between the bounds. -/
def withinBounds (text : List Char) (bounds : Int × Int) : Bool :=
  match Text.integer? text with
  | some n => bounds.1 ≤ n && n ≤ bounds.2
  | none => false

/-- Whether the glob matches a `/`-separated path relative to the directory of its file. -/
def isMatch (glob : Glob) (path : List Char) : Bool :=
  match glob.regex.captures? path with
  | none => false
  | some captures =>
    glob.bounds.zipIdx.all fun (bounds, i) =>
      match captures.find? (·.group == i) with
      | some capture => withinBounds capture.text bounds
      | none => true

end Glob

end StyleCheck.Section
