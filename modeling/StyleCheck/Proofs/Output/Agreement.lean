import StyleCheck.Proofs.Command.Exit
import StyleCheck.Proofs.Output.Json
import StyleCheck.Proofs.Output.Notice
import StyleCheck.Proofs.Output.Records
import StyleCheck.Proofs.Output.Summary
import StyleCheck.Proofs.Validation.Consolidation
import Mathlib.Algebra.BigOperators.Group.List.Basic
import Mathlib.Algebra.GroupWithZero.Nat
import Mathlib.Data.List.Forall2

/-!
# The formats agree

Every format consolidates the findings of the reports on its own, while the counts in the summary
and the exit code come from the findings as they were found.

**Theorem (`formats_agree`).** On reports whose findings were not merged before, the number of
errors in the summary is the number of lines that its entries stand for and the number of compiler
messages; the number of files with errors is the number of headings; workflow commands and issues
are about the same records; and these formats are empty exactly if no error is counted. The reports
of a check are such reports, and a check that does not fail ends as clean exactly if it counts no
error.

The texts of the formats are read for this: lines of the summary (`Summary.ShowsEntry`,
`Summary.Totals.read?`), commands (`Workflow.read?`), and the array of issues (`CodeClimate.read?`).

The counts rest on what consolidation keeps: an entry stands for as many errors as its finding
covers lines (`Entry.extent_eq`), so the entries of a report stand for as many as the report counts
(`sum_extent_entriesOf`).
-/

namespace StyleCheck.Output

variable {reports : List Report} {report : Report} {colors : Bool}

/-! ## How many errors an entry stands for -/

/-- How many errors an entry stands for: one for each of its lines, or one for the whole file. -/
def Entry.extent (entry : Entry) : Nat :=
  match entry.finding.firstLine, entry.finding.lastLine with
  | some first, some last => last - first + 1
  | _, _ => 1

theorem Entry.extent_eq (entry : Entry) : entry.extent = entry.finding.covered.length := by
  unfold extent Finding.covered Finding.firstLine Finding.lastLine
  cases entry.finding.line with
  | none => rfl
  | some line => simp

theorem length_recordsOf (entry : Entry) : (Gcc.recordsOf entry).length = entry.extent := by
  rw [Gcc.recordsOf_eq, List.length_map, Entry.extent_eq]

/-- A finding that was not merged is one error. -/
theorem length_covered {finding : Finding} (h : finding.further = 0) :
    finding.covered.length = 1 := by
  unfold Finding.covered
  cases finding.line with
  | none => rfl
  | some line => simp [h]

theorem sum_extent_entriesOf (h : report.IsUnmerged) :
    ((entriesOf report).map Entry.extent).sum = report.count := by
  have hone : report.findings.map (List.length ∘ Finding.covered) =
      report.findings.map fun _ => 1 :=
    List.map_congr_left fun finding hfinding => length_covered (h finding hfinding)
  have hlength : ∀ findings : List Finding, (findings.flatMap Finding.covered).length =
      (findings.map (List.length ∘ Finding.covered)).sum := fun findings => by
    rw [List.length_flatMap]
    rfl
  -- Merging keeps the lines that are covered, and each of them was found by itself.
  calc ((entriesOf report).map Entry.extent).sum
    _ = ((Finding.consolidate report.findings).map (List.length ∘ Finding.covered)).sum := by
      simp only [entriesOf, List.map_map]
      congr 1
      exact List.map_congr_left fun finding _ => Entry.extent_eq _
    _ = ((Finding.consolidate report.findings).flatMap Finding.covered).length :=
      (hlength _).symm
    _ = (report.findings.flatMap Finding.covered).length :=
      (Finding.covered_consolidate report.findings).length_eq
    _ = report.count := by
      rw [hlength, hone]
      simp [Report.count]

theorem errorCount_eq_sum (reports : List Report) :
    Summary.errorCount reports = (reports.map Report.count).sum := by
  rw [Summary.errorCount, List.sum_eq_foldl, List.foldl_map]

theorem errorCount_eq (h : ∀ report ∈ reports, report.IsUnmerged) :
    Summary.errorCount reports = ((entries reports).map Entry.extent).sum := by
  rw [errorCount_eq_sum]
  induction reports with
  | nil => rfl
  | cons report reports ih =>
    obtain ⟨hreport, hreports⟩ := List.forall_mem_cons.1 h
    have hentries : entries (report :: reports) = entriesOf report ++ entries reports := rfl
    rw [hentries, List.map_append, List.sum_append, sum_extent_entriesOf hreport, ← ih hreports,
      List.map_cons, List.sum_cons]

theorem length_records (h : ∀ report ∈ reports, report.IsUnmerged) :
    (Gcc.records reports).length = Summary.errorCount reports := by
  rw [errorCount_eq h, Gcc.records, List.length_flatMap]
  simp only [length_recordsOf]

/-! ## Nothing found -/

theorem errorCount_eq_zero_iff :
    Summary.errorCount reports = 0 ↔ ∀ report ∈ reports, report.findings = [] := by
  rw [errorCount_eq_sum, List.sum_eq_zero_iff_forall_eq_nat]
  simp [Report.count]

theorem all_isClean_iff :
    reports.all (·.isClean) = true ↔ Summary.errorCount reports = 0 := by
  rw [errorCount_eq_zero_iff, List.all_eq_true]
  simp only [Report.isClean, List.isEmpty_iff]

theorem covered_ne_nil (finding : Finding) : finding.covered ≠ [] := by
  unfold Finding.covered
  cases finding.line <;> simp

theorem entriesOf_eq_nil_iff : entriesOf report = [] ↔ report.findings = [] := by
  constructor
  · intro h
    have hnone : Finding.consolidate report.findings = [] := List.map_eq_nil_iff.1 h
    have hcovered := Finding.covered_consolidate report.findings
    rw [hnone, List.flatMap_nil, List.nil_perm, List.flatMap_eq_nil_iff] at hcovered
    refine List.eq_nil_iff_forall_not_mem.2 fun finding hfinding => ?_
    exact covered_ne_nil finding (hcovered finding hfinding)
  · intro h
    rw [entriesOf, h]
    rfl

theorem entries_eq_nil_iff : entries reports = [] ↔ Summary.errorCount reports = 0 := by
  rw [entries, List.flatMap_eq_nil_iff, errorCount_eq_zero_iff]
  simp only [entriesOf_eq_nil_iff]

theorem lines_eq_empty_iff {texts : List String} : lines texts = "" ↔ texts = [] := by
  cases texts with
  | nil => simp [lines]
  | cons text texts => simp [lines, String.append_eq_empty_iff]

/-- Only an empty array is written as two brackets; another has a line feed behind the first. -/
theorem render_array_eq_iff {items : List Json} :
    (Json.array items).render 0 ++ "\n" = "[]\n" ↔ items = [] := by
  cases items with
  | nil => simp [Json.render, Json.renderItems, Json.bracketed]
  | cons item items =>
    refine iff_of_false ?_ (by simp)
    intro heq
    have hchars := congrArg String.toList heq
    simp [Json.render, Json.renderItems, Json.bracketed, Json.newLine] at hchars

/-! ## Files with errors -/

theorem isClean_iff : report.isClean = true ↔ entriesOf report = [] := by
  rw [Report.isClean, List.isEmpty_iff, entriesOf_eq_nil_iff]

/-- Reports without findings have no entries, so those with errors have all entries. -/
theorem entries_failed (reports : List Report) :
    (Summary.failed reports).flatMap entriesOf = entries reports := by
  unfold Summary.failed entries
  induction reports with
  | nil => rfl
  | cons report reports ih =>
    rw [List.filter_cons, List.flatMap_cons, ← ih]
    cases hclean : report.isClean with
    | true => simp [isClean_iff.1 hclean]
    | false => simp

theorem entriesOf_ne_nil (h : report ∈ Summary.failed reports) : entriesOf report ≠ [] := by
  intro hnone
  have hfound := (List.mem_filter.1 h).2
  rw [isClean_iff.2 hnone] at hfound
  cases hfound

/-! ## Issues -/

namespace Json

/-- The value of a field. -/
def at? (json : Json) (key : String) : Option Json :=
  match json with
  | object fields => fields.lookup key
  | _ => none

/-- The string that the value is. -/
def asString? : Json → Option String
  | string s => some s
  | _ => none

/-- The number that the value is. -/
def asNumber? : Json → Option Nat
  | number n => some n
  | _ => none

end Json

namespace CodeClimate

/-- What an issue says about a place. -/
structure Remark where
  path : String
  firstLine : Nat
  lastLine : Nat
  description : String
  deriving DecidableEq, Repr

/-- Reads an issue. -/
def Remark.ofJson? (json : Json) : Option Remark := do
  let location ← json.at? "location"
  let lines ← location.at? "lines"
  pure {
    path := ← (← location.at? "path").asString?
    firstLine := ← (← lines.at? "begin").asNumber?
    lastLine := ← (← lines.at? "end").asNumber?
    description := ← (← json.at? "description").asString? }

/-- Reads an array of issues. -/
def read? (text : List Char) : Option (List Remark) :=
  match Json.read? text with
  | some (.array items) => items.mapM Remark.ofJson?
  | _ => none

/-- What the issue for an entry should say. -/
def Remark.ofEntry (entry : Entry) : Remark where
  path := entry.path
  firstLine := entry.finding.firstLine.getD 1
  lastLine := entry.finding.lastLine.getD 1
  description := entry.finding.message

theorem ofJson?_json (entry : Entry) :
    Remark.ofJson? (Issue.ofEntry entry).json = some (Remark.ofEntry entry) := by
  rfl

theorem mapM_json (entries : List Entry) :
    ((entries.map Issue.ofEntry).map Issue.json).mapM Remark.ofJson? =
      some (entries.map Remark.ofEntry) := by
  induction entries with
  | nil => rfl
  | cons entry entries ih =>
    simp only [List.map_cons, List.mapM_cons, ofJson?_json, ih]
    rfl

/-- **The issues are read back**, one for each entry. -/
theorem read?_render (reports : List Report) :
    read? (render reports).toList = some ((entries reports).map Remark.ofEntry) := by
  have hread : Json.read? (render reports).toList =
      some (.array ((issues reports).map Issue.json)) := by
    rw [render, String.toList_append]
    exact Json.read?_render _ rfl
  rw [read?, hread]
  exact mapM_json (entries reports)

end CodeClimate

/-- The command and the issue are about the same record. An error of the whole file, for which the
command names no line, is an issue of line 1. -/
structure SameRecord (command : Workflow.Notice) (issue : CodeClimate.Remark) : Prop where
  path : issue.path = command.path
  message : issue.description = command.message
  firstLine : issue.firstLine = command.firstLine.getD 1
  lastLine : issue.lastLine = command.lastLine.getD 1
  one_le : 1 ≤ issue.firstLine
  first_le_last : issue.firstLine ≤ issue.lastLine

theorem sameRecord_ofEntry (entry : Entry) :
    SameRecord (Workflow.Notice.ofEntry entry) (CodeClimate.Remark.ofEntry entry) where
  path := rfl
  message := rfl
  firstLine := rfl
  lastLine := rfl
  one_le := by
    simp only [CodeClimate.Remark.ofEntry, Finding.firstLine]
    cases entry.finding.line <;> simp
  first_le_last := by
    simp only [CodeClimate.Remark.ofEntry, Finding.firstLine, Finding.lastLine]
    cases entry.finding.line <;> simp

/-! ## Main result -/

/-- What the formats and the counts have in common. -/
structure Agreement (colors : Bool) (reports : List Report) : Prop where
  /-- The summary has a heading for each report with errors, and prints how many these are and how
  many errors there are. -/
  summary : ∃ (blocks : List (List String)) (totals : String),
    Summary.render colors reports = String.join ((blocks.flatten ++ [totals]).map (· ++ "\n")) ∧
    List.Forall₂ (Summary.ShowsReport colors) blocks (Summary.failed reports) ∧
    Summary.Totals.read? totals.toList = some {
      files := reports.length
      errors := Summary.errorCount reports
      failed := blocks.length }
  /-- Under every heading there are entries. -/
  headed : ∀ report ∈ Summary.failed reports, entriesOf report ≠ []
  /-- The entries under the headings stand for the errors that are counted. -/
  entries_count : (((Summary.failed reports).flatMap entriesOf).map Entry.extent).sum =
    Summary.errorCount reports
  /-- There is a compiler message for each error. -/
  messages : ∃ records : List Gcc.Record,
    Gcc.render reports = String.join (records.map fun record =>
      record.path ++ ":" ++ toString record.line ++ ":0: error: " ++ record.message ++ "\n") ∧
    records.length = Summary.errorCount reports
  /-- The commands, one on each line, and the issues are about the entries, in one order. -/
  same_records : ∃ commands issues,
    Text.piecesAt '\n' (Workflow.render reports).toList = commands ++ [[]] ∧
    CodeClimate.read? (CodeClimate.render reports).toList = some issues ∧
    commands.map Workflow.read? = (entries reports).map (some ∘ Workflow.Notice.ofEntry) ∧
    List.Forall₂ SameRecord ((entries reports).map Workflow.Notice.ofEntry) issues
  messages_empty : Gcc.render reports = "" ↔ Summary.errorCount reports = 0
  commands_empty : Workflow.render reports = "" ↔ Summary.errorCount reports = 0
  issues_empty : CodeClimate.render reports = "[]\n" ↔ Summary.errorCount reports = 0

theorem agreement_of_isUnmerged (colors : Bool) (h : ∀ report ∈ reports, report.IsUnmerged) :
    Agreement colors reports where
  summary := Summary.exists_render colors reports
  headed _ := entriesOf_ne_nil
  entries_count := by
    rw [entries_failed, errorCount_eq h]
  messages := ⟨Gcc.records reports, Gcc.render_eq reports, length_records h⟩
  same_records := by
    refine ⟨_, _, Workflow.pieces_render reports, CodeClimate.read?_render reports, ?_, ?_⟩
    · rw [List.map_map]
      exact List.map_congr_left fun entry _ => Workflow.read?_command entry
    · rw [List.forall₂_map_left_iff, List.forall₂_map_right_iff, List.forall₂_same]
      exact fun entry _ => sameRecord_ofEntry entry
  messages_empty := by
    rw [Gcc.render, lines_eq_empty_iff, List.map_eq_nil_iff, ← List.length_eq_zero_iff,
      length_records h]
  commands_empty := by
    rw [Workflow.render, lines_eq_empty_iff, List.map_eq_nil_iff, entries_eq_nil_iff]
  issues_empty := by
    rw [CodeClimate.render, render_array_eq_iff, List.map_eq_nil_iff, CodeClimate.issues,
      List.map_eq_nil_iff, entries_eq_nil_iff]

/-- **The formats agree** with each other, and the exit code of a check with them. -/
theorem formats_agree (colors : Bool) :
    (∀ reports : List Report, (∀ report ∈ reports, report.IsUnmerged) →
      Agreement colors reports) ∧
    ∀ surroundings invocation disk reports,
      Command.Completes surroundings invocation disk reports →
        Agreement colors reports ∧
        ((Command.run surroundings invocation disk).exit.code = 0 ↔
          Summary.errorCount reports = 0) := by
  refine ⟨fun reports => agreement_of_isUnmerged colors,
    fun surroundings invocation disk reports hcompletes => ⟨?_, ?_⟩⟩
  · exact agreement_of_isUnmerged colors hcompletes.isUnmerged
  · rw [hcompletes.exit_eq, ← all_isClean_iff]
    cases reports.all (·.isClean) <;> simp [Command.Exit.code]

/-- A file with three errors, two of them of one kind on consecutive lines, and a clean file. -/
def threeErrors : List Report := [
  ⟨⟨"./a.txt"⟩, [
    .ofViolation none .missingFinalNewline,
    .ofViolation (some 0) .trailingWhitespace,
    .ofViolation (some 1) .trailingWhitespace]⟩,
  ⟨⟨"b.txt"⟩, []⟩]

namespace TwoLines

/-- Settings, and a file of two lines that end in blanks. -/
def disk : Disk where
  root := .directory [
    (".editorconfig", .file (Text.Utf8.encode "[*]\ntrim_trailing_whitespace=true".toList)),
    ("a", .file (Text.Utf8.encode "\uFEFFx \ny ".toList))]
  current := []

/-- What is asked of a check of that file. -/
def arguments : CommandLine.CheckArguments :=
  { paths := [⟨"a"⟩], ignoreDefaults := true, noGitignore := true }

/-- A check of that file without a configuration. -/
def invocation : CommandLine.Invocation := { noConfig := true, command := .check arguments }

/-- The check starts at the root. -/
def surroundings : Command.Surroundings := { home := ⟨"/"⟩ }

end TwoLines

open TwoLines in
theorem formats_agree_threeErrors :
    ((∀ report ∈ threeErrors, report.IsUnmerged) ∧ (entries threeErrors).length = 2 ∧
      Summary.errorCount threeErrors = 3 ∧ Agreement false threeErrors) ∧
    ∃ reports, Command.Completes surroundings invocation disk reports ∧
      (entries reports).length = 1 ∧ Summary.errorCount reports = 2 ∧ Agreement true reports ∧
      (Command.run surroundings invocation disk).exit.code ≠ 0 := by
  have hunmerged : ∀ report ∈ threeErrors, report.IsUnmerged := by
    unfold Report.IsUnmerged
    decide
  refine ⟨⟨hunmerged, by decide, by decide, (formats_agree false).1 threeErrors hunmerged⟩, ?_⟩
  -- The check is run up to its reports, and then to its end.
  obtain ⟨config, reports, session, hvalidate, hentries, hcount⟩ : ∃ config reports session,
      (Command.validate surroundings invocation (Command.logOf surroundings invocation)
        arguments).run { disk } = (.ok (some (config, reports)), session) ∧
      (entries reports).length = 1 ∧ Summary.errorCount reports = 2 := by
    refine ⟨_, _, _, rfl, ?_, ?_⟩ <;> decide +kernel
  have hcompletes : Command.Completes surroundings invocation disk reports :=
    ⟨⟨arguments, config, session, rfl, hvalidate⟩, by decide +kernel⟩
  obtain ⟨hagreement, hexit⟩ := (formats_agree true).2 _ _ _ _ hcompletes
  refine ⟨reports, hcompletes, hentries, hcount, hagreement, fun hclean => ?_⟩
  rw [hexit.1 hclean] at hcount
  cases hcount

end StyleCheck.Output
