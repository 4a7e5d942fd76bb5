/-!
# Lines

A text is a sequence of lines, each ended by a line feed, a carriage return or the pair of both;
the last line may lack its end. `segments` keeps the ends, `lines` drops them, so a text is
recovered from its segments and an end at the very end of the text starts no further line.

`records` is the other, narrower notion: only a line feed ends a record, and a carriage return
directly before it belongs to the end.
-/

namespace StyleCheck

/-- The three ways to end a line. -/
inductive EndOfLine
  | lf
  | cr
  | crlf
  deriving DecidableEq, Repr

namespace EndOfLine

/-- The characters that make up the end of the line. -/
def sequence : EndOfLine → List Char
  | lf => ['\n']
  | cr => ['\r']
  | crlf => ['\r', '\n']

/-- The name of the end of line in configuration files. -/
def name : EndOfLine → String
  | lf => "lf"
  | cr => "cr"
  | crlf => "crlf"

/-- The end of line of a name. -/
def ofName? (name : String) : Option EndOfLine :=
  [lf, cr, crlf].find? (·.name == name)

end EndOfLine

namespace Text

/-- A line together with what ended it; `none` for an unended last line. -/
abbrev Segment := List Char × Option EndOfLine

/-- The lines of a text with their ends. A carriage return is never cut off from a line feed
that follows it. -/
def segments : List Char → List Segment
  | [] => []
  | '\n' :: rest => ([], some .lf) :: segments rest
  | '\r' :: '\n' :: rest => ([], some .crlf) :: segments rest
  | '\r' :: rest => ([], some .cr) :: segments rest
  | c :: rest =>
    match segments rest with
    | [] => [([c], none)]
    | (line, ending) :: more => (c :: line, ending) :: more

/-- The lines of a text without their ends. -/
def lines (text : List Char) : List (List Char) := (segments text).map Prod.fst

/-- The characters of a segment, its end included. -/
def Segment.chars (segment : Segment) : List Char :=
  segment.1 ++ (segment.2.map EndOfLine.sequence).getD []

/-- The lines of a text in which only a line feed ends a line, without the line feed and a
carriage return directly before it. -/
def records : List Char → List (List Char)
  | [] => []
  | '\n' :: rest => [] :: records rest
  | '\r' :: '\n' :: rest => [] :: records rest
  | c :: rest =>
    match records rest with
    | [] => [[c]]
    | line :: more => (c :: line) :: more

end Text

end StyleCheck
