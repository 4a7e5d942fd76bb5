import StyleCheck.Path.Basic
import StyleCheck.Validation.Report

/-!
# Entries

What every format shows, and the two formats that show each entry on lines of its own.
-/

namespace StyleCheck.Output

/-! ## Entries

What every format shows: the consolidated findings of the reports, each with the path as it is
displayed, in the order of the reports. -/

/-- A consolidated finding and where it was found. -/
structure Entry where
  path : String
  finding : Finding
  deriving DecidableEq, Repr

/-- The entries of a report. -/
def entriesOf (report : Report) : List Entry :=
  (Finding.consolidate report.findings).map fun finding => ⟨report.path.display, finding⟩

/-- The entries of several reports. -/
def entries (reports : List Report) : List Entry := reports.flatMap entriesOf

/-- The lines, each followed by a line feed. -/
def lines (texts : List String) : String := String.join (texts.map (· ++ "\n"))

end StyleCheck.Output

namespace StyleCheck.Output.Gcc

/-! ## Compiler messages

One line per error in the form of compiler messages, `path:line:0: error: message`. An entry that
covers several lines is written once for each of them; an error of the whole file has line 0. -/

/-- An error at a line; lines are counted from one. -/
structure Record where
  path : String
  line : Nat
  message : String
  deriving DecidableEq, Repr

/-- The lines that a finding covers. -/
def coveredLines (finding : Finding) : List Nat :=
  match finding.firstLine with
  | none => [0]
  | some first => List.range' first (finding.further + 1)

/-- The records of an entry. -/
def recordsOf (entry : Entry) : List Record :=
  (coveredLines entry.finding).map fun line => ⟨entry.path, line, entry.finding.message⟩

/-- The records of several reports. -/
def records (reports : List Report) : List Record := (entries reports).flatMap recordsOf

/-- The line for a record. -/
def Record.render (record : Record) : String :=
  record.path ++ ":" ++ toString record.line ++ ":0: error: " ++ record.message

/-- The messages of several reports. -/
def render (reports : List Report) : String := lines ((records reports).map Record.render)

end StyleCheck.Output.Gcc

namespace StyleCheck.Output.Workflow

/-! ## Workflow commands

One command per entry that annotates the lines of a change,
`::error file=F,line=N,endLine=M::message`. Characters that would end a part of the command are
written as percent escapes: line ends and the percent sign everywhere, colons and commas in the
path. -/

/-- The text of a message. The percent sign is replaced first, so that no escape is escaped. -/
def escapedMessage (text : List Char) : List Char :=
  Text.replaceWith '\n' "%0A".toList <| Text.replaceWith '\r' "%0D".toList <|
    Text.replaceWith '%' "%25".toList text

/-- The text of a path. -/
def escapedPath (text : List Char) : List Char :=
  Text.replaceWith ',' "%2C".toList <| Text.replaceWith ':' "%3A".toList <| escapedMessage text

/-- The part of the command that says where in the file the error is. -/
def place (finding : Finding) : String :=
  match finding.firstLine, finding.lastLine with
  | some first, some last =>
    ",line=" ++ toString first ++ if first < last then ",endLine=" ++ toString last else ""
  | _, _ => ""

/-- The command for an entry. -/
def command (entry : Entry) : String :=
  "::error file=" ++ String.ofList (escapedPath entry.path.toList) ++ place entry.finding ++ "::" ++
    String.ofList (escapedMessage entry.finding.message.toList)

/-- The commands for several reports. -/
def render (reports : List Report) : String := lines ((entries reports).map command)

end StyleCheck.Output.Workflow
