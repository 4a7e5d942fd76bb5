import StyleCheck.Output.CodeClimate
import StyleCheck.Output.Entry
import StyleCheck.Output.Style
import StyleCheck.Text.Case

/-!
# Output formats

The summary for readers, and all formats in which reports can be written, by name.
-/

namespace StyleCheck.Output.Summary

/-! ## The summary for readers

The errors of each file under its path, and a last line that counts files and errors. Files
without errors are counted but not listed. -/

/-- The lines that a finding covers, as shown to readers. -/
def place (finding : Finding) : Option String :=
  match finding.firstLine, finding.lastLine with
  | some first, some last =>
    some (if first < last then "line " ++ toString first ++ "-" ++ toString last
      else "line " ++ toString first)
  | _, _ => none

/-- The line for an entry. -/
def entryLine (entry : Entry) : String :=
  match place entry.finding with
  | some place => "\t" ++ place ++ ": " ++ entry.finding.message
  | none => "\t" ++ entry.finding.message

/-- What is shown of a file with errors: its path as a heading, and its entries. -/
structure Block where
  heading : String
  entries : List Entry

namespace Block

/-- The block of a report. -/
def ofReport (colors : Bool) (report : Report) : Block where
  heading := Style.paint colors [.yellow] report.path.display ++ ":"
  entries := entriesOf report

/-- The lines of a block; a blank one ends it. -/
def lines (block : Block) : List String :=
  [block.heading] ++ block.entries.map entryLine ++ [""]

end Block

/-- A number with a noun in the singular or in the plural. -/
def counted (n : Nat) (noun : String) : String :=
  toString n ++ " " ++ (if n = 1 then noun else noun ++ "s")

/-- The number of errors. -/
def errorCount (reports : List Report) : Nat :=
  reports.foldl (fun count report => count + report.count) 0

/-- The reports on files with errors. -/
def failed (reports : List Report) : List Report := reports.filter fun report => !report.isClean

/-- The blocks of the files with errors. -/
def blocks (colors : Bool) (reports : List Report) : List Block :=
  (failed reports).map (Block.ofReport colors)

/-- The line that counts the files that were checked, the errors, and the files with errors. -/
def totals (colors : Bool) (files errors failed : Nat) : String :=
  let style := if errors = 0 then Style.green else Style.red
  "Summary: " ++ counted files "file" ++ " checked, " ++
    Style.paint colors [style] (counted errors "error") ++ " in " ++ counted failed "file"

/-- The whole summary. -/
def render (colors : Bool) (reports : List Report) : String :=
  lines ((blocks colors reports).flatMap Block.lines ++
    [totals colors reports.length (errorCount reports) (failed reports).length])

end StyleCheck.Output.Summary

namespace StyleCheck.Output

/-! ## Output formats

The formats in which reports can be written, by name. Names are read without regard to case, and
two formats have a second name. -/

/-- A format of reports. -/
inductive Format
  | summary
  | gcc
  | workflow
  | codeClimate
  deriving DecidableEq, Repr

namespace Format

/-- The name of the format. -/
def name : Format → String
  | summary => "default"
  | gcc => "gcc"
  | workflow => "github-actions"
  | codeClimate => "codeclimate"

/-- The format of a name in lower case. -/
def ofName? (name : String) : Option Format :=
  [("default", summary), ("text", summary), ("gcc", gcc), ("github-actions", workflow),
    ("github", workflow), ("codeclimate", codeClimate)].lookup name

/-- The format that a text names. -/
def parse? (text : String) : Option Format := ofName? (Text.lowerString text)

/-- What is said of a text that names no format. -/
def unknown (text : String) : String :=
  "Unknown output format: " ++ text ++ " (expected default, gcc, github-actions or codeclimate)"

/-- The reports in the format. Only the summary has colours. -/
def render (format : Format) (colors : Bool) (reports : List Report) : String :=
  match format with
  | summary => Summary.render colors reports
  | gcc => Gcc.render reports
  | workflow => Workflow.render reports
  | codeClimate => CodeClimate.render reports

end Format

end StyleCheck.Output
