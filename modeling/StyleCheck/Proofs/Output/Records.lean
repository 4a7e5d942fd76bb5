import StyleCheck.Output.Entry
import StyleCheck.Proofs.Validation.Consolidation

/-!
# Compiler messages undo consolidation

**Theorem (`render_expanded`).** The compiler messages of several reports are, report by report, the
records of its findings in some order, one for each line that a finding covers.

An entry is written once for each place that its finding covers (`recordsOf_eq`), so the records of
a report depend only on what its findings cover, and that is what consolidation keeps.
-/

namespace StyleCheck.Output.Gcc

/-- The record of a place that a finding covers. Lines count from one, and the whole file has
line 0. -/
def Record.ofPlace (path : String) (place : Option Nat × String) : Record :=
  ⟨path, place.1.elim 0 (· + 1), place.2⟩

/-- The findings of a report as records, one for each line that they cover. -/
def expanded (report : Report) : List Record :=
  report.findings.flatMap fun finding => finding.covered.map (Record.ofPlace report.path.display)

theorem recordsOf_eq (entry : Entry) :
    recordsOf entry = entry.finding.covered.map (Record.ofPlace entry.path) := by
  unfold recordsOf coveredLines Finding.covered Finding.firstLine
  cases entry.finding.line with
  | none => rfl
  | some line =>
    have hshift : List.range' (line + 1) (entry.finding.further + 1) =
        (List.range' line (entry.finding.further + 1)).map (1 + ·) := by
      rw [List.map_add_range', Nat.add_comm]
    simp [hshift, Record.ofPlace, Function.comp_def, Nat.add_comm]

/-- The records of a report are those of its findings, in some order. -/
theorem perm_expanded (report : Report) :
    ((entriesOf report).flatMap recordsOf).Perm (expanded report) := by
  have hentries : (entriesOf report).flatMap recordsOf =
      ((Finding.consolidate report.findings).flatMap Finding.covered).map
        (Record.ofPlace report.path.display) := by
    simp only [entriesOf, List.flatMap_map, recordsOf_eq, List.map_flatMap]
  rw [hentries, expanded, ← List.map_flatMap]
  exact (Finding.covered_consolidate report.findings).map _

/-- The line of a record is `path:line:0: error: message`. -/
theorem render_eq (reports : List Report) :
    render reports = String.join ((records reports).map fun record =>
      record.path ++ ":" ++ toString record.line ++ ":0: error: " ++ record.message ++ "\n") := by
  rw [render, lines, List.map_map]
  rfl

/-- **Compiler messages undo consolidation.** The messages are the lines of records that are, report
by report, those of its findings in some order. -/
theorem render_expanded (reports : List Report) :
    ∃ parts : List (List Record),
      records reports = parts.flatten ∧
      render reports = String.join (parts.flatten.map fun record =>
        record.path ++ ":" ++ toString record.line ++ ":0: error: " ++ record.message ++ "\n") ∧
      List.Forall₂ (fun report part => part.Perm (expanded report)) reports parts := by
  have hrecords : records reports =
      (reports.map fun report => (entriesOf report).flatMap recordsOf).flatten := by
    rw [records, entries, List.flatMap_assoc, List.flatMap_def]
  refine ⟨_, hrecords, ?_, ?_⟩
  · rw [render_eq, hrecords]
  · rw [List.forall₂_map_right_iff, List.forall₂_same]
    exact fun report _ => perm_expanded report

end StyleCheck.Output.Gcc
