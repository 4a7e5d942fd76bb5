import StyleCheck.Validation.Finding
import Mathlib.Data.List.Induction
import Mathlib.Data.List.Nodup
import Mathlib.Data.List.Perm.Basic

/-!
# What consolidation keeps

A finding covers its line and the further lines that have the same error; an error of the whole
file covers no line but counts as one. Consolidated findings cover what the findings covered before,
each line with its message as often as before (`covered_consolidate`).

**Theorem (`consolidate_keeps`).** So the findings on lines cover the same lines after a
consolidation, and those of the whole file are the same findings.

The findings are merged one by one, so it is enough to say what one merge does. It puts a finding in
front of the others or makes one of them longer that the finding continues (`merge_cases`), and then
the lines of the run and those of the finding make one stretch of lines (`covered_continued`).
-/

namespace StyleCheck.Finding

variable {finding run : Finding} {findings merged extended : List Finding} {line : Nat}
  {message : String}

/-! ## One merge -/

theorem continuedBy_iff : run.continuedBy message line = true ↔
    run.message = message ∧ ∃ start, run.line = some start ∧ start + run.further + 1 = line := by
  unfold continuedBy
  cases run.line <;> simp

/-- The finding with the lines of one that continues it. -/
def longer (run finding : Finding) : Finding :=
  { run with further := run.further + 1 + finding.further }

theorem extend_eq_some (h : merge.extend finding line merged = some extended) :
    ∃ newer run older, merged = newer ++ run :: older ∧
      (∀ other ∈ newer, other.continuedBy finding.message line = false) ∧
      run.continuedBy finding.message line = true ∧
      extended = newer ++ run.longer finding :: older := by
  induction merged generalizing extended with
  | nil => cases h
  | cons first others ih =>
    rw [merge.extend] at h
    by_cases hfirst : first.continuedBy finding.message line = true
    · rw [if_pos hfirst, Option.some.injEq] at h
      exact ⟨[], first, others, rfl, nofun, hfirst, h.symm⟩
    · rw [if_neg hfirst] at h
      obtain ⟨rest, hrest, rfl⟩ := Option.map_eq_some_iff.1 h
      obtain ⟨newer, run, older, rfl, hnewer, hrun, rfl⟩ := ih hrest
      refine ⟨first :: newer, run, older, rfl, ?_, hrun, rfl⟩
      exact List.forall_mem_cons.2 ⟨Bool.eq_false_iff.2 hfirst, hnewer⟩

theorem extend_eq_none (h : merge.extend finding line merged = none) :
    ∀ run ∈ merged, run.continuedBy finding.message line = false := by
  induction merged with
  | nil => exact nofun
  | cons first others ih =>
    rw [merge.extend] at h
    by_cases hfirst : first.continuedBy finding.message line = true
    · rw [if_pos hfirst] at h
      cases h
    · rw [if_neg hfirst] at h
      exact List.forall_mem_cons.2 ⟨Bool.eq_false_iff.2 hfirst, ih (Option.map_eq_none_iff.1 h)⟩

/-- **What a merge does**: it puts the finding in front, if the finding continues no other one, or
it makes the first run longer that the finding continues. -/
theorem merge_cases (finding : Finding) (merged : List Finding) :
    (finding.merge merged = finding :: merged ∧
      ∀ line, finding.line = some line →
        ∀ run ∈ merged, run.continuedBy finding.message line = false) ∨
    ∃ line newer run older, finding.line = some line ∧ merged = newer ++ run :: older ∧
      (∀ other ∈ newer, other.continuedBy finding.message line = false) ∧
      run.continuedBy finding.message line = true ∧
      finding.merge merged = newer ++ run.longer finding :: older := by
  unfold merge
  cases hline : finding.line with
  | none => exact .inl ⟨rfl, nofun⟩
  | some line =>
    cases h : merge.extend finding line merged with
    | none =>
      refine .inl ⟨by simp only [h], ?_⟩
      rintro _ ⟨⟩
      exact extend_eq_none h
    | some extended =>
      obtain ⟨newer, run, older, hmerged, hnewer, hrun, rfl⟩ := extend_eq_some h
      exact .inr ⟨line, newer, run, older, rfl, hmerged, hnewer, hrun, by simp only [h]⟩

/-- Consolidation merges the last finding with the consolidation of the others. -/
theorem consolidate_concat (findings : List Finding) (finding : Finding) :
    consolidate (findings ++ [finding]) =
      (finding.merge (consolidate findings).reverse).reverse := by
  simp only [consolidate, List.foldl_append, List.foldl_cons, List.foldl_nil, List.reverse_reverse]

/-! ## What is covered -/

/-- The lines that a finding covers, each with the message; an error of the whole file counts once,
without a line. -/
def covered (finding : Finding) : List (Option Nat × String) :=
  match finding.line with
  | none => [(none, finding.message)]
  | some line => (List.range' line (finding.further + 1)).map fun i => (some i, finding.message)

theorem covered_continued (hline : finding.line = some line)
    (h : run.continuedBy finding.message line = true) :
    (run.longer finding).covered = run.covered ++ finding.covered := by
  obtain ⟨hmessage, start, hstart, hnext⟩ := continuedBy_iff.1 h
  have hrange : List.range' start (run.further + 1 + finding.further + 1) =
      List.range' start (run.further + 1) ++ List.range' line (finding.further + 1) := by
    rw [← hnext, Nat.add_assoc start, List.range'_append_1]
    congr 1
  simp only [covered, longer, hstart, hline, hmessage, hrange, List.map_append]

theorem covered_merge (finding : Finding) (merged : List Finding) :
    ((finding.merge merged).flatMap covered).Perm (finding.covered ++ merged.flatMap covered) := by
  rcases merge_cases finding merged with
    ⟨heq, -⟩ | ⟨line, newer, run, older, hline, rfl, -, hrun, heq⟩
  · rw [heq, List.flatMap_cons]
  · rw [heq]
    simp only [List.flatMap_append, List.flatMap_cons, covered_continued hline hrun]
    have hfront : (run.covered ++ finding.covered ++ older.flatMap covered).Perm
        (finding.covered ++ (run.covered ++ older.flatMap covered)) := by
      rw [← List.append_assoc]
      exact List.perm_append_comm.append_right _
    exact (hfront.append_left _).trans (List.perm_append_comm_assoc _ _ _)

/-- **Consolidation keeps what the findings cover.** -/
theorem covered_consolidate (findings : List Finding) :
    ((consolidate findings).flatMap covered).Perm (findings.flatMap covered) := by
  induction findings using List.reverseRecOn with
  | nil => rfl
  | append_singleton findings finding ih =>
    rw [consolidate_concat, List.flatMap_append, List.flatMap_singleton]
    refine ((List.reverse_perm _).flatMap_right covered).trans ?_
    refine (covered_merge finding _).trans (List.perm_append_comm.trans ?_)
    exact (((List.reverse_perm _).flatMap_right covered).trans ih).append_right _

/-! ## The findings of a consolidation -/

theorem mem_covered (finding : Finding) : (finding.line, finding.message) ∈ finding.covered := by
  unfold covered
  cases finding.line <;> simp

theorem message_of_mem_covered {place : Option Nat × String} (h : place ∈ finding.covered) :
    place.2 = finding.message := by
  unfold covered at h
  split at h
  · rw [List.mem_singleton.1 h]
  · obtain ⟨_, -, rfl⟩ := List.mem_map.1 h
    rfl

theorem mem_covered_iff : (some line, message) ∈ finding.covered ↔
    ∃ first, finding.line = some first ∧ first ≤ line ∧ line ≤ first + finding.further ∧
      finding.message = message := by
  unfold covered
  cases finding.line with
  | none => simp
  | some first =>
    simp only [List.mem_map, List.mem_range'_1, Prod.mk.injEq, Option.some.injEq]
    constructor
    · rintro ⟨i, ⟨hfirst, hlast⟩, rfl, rfl⟩
      exact ⟨first, rfl, hfirst, by omega, rfl⟩
    · rintro ⟨_, rfl, hfirst, hlast, rfl⟩
      exact ⟨line, ⟨hfirst, by omega⟩, rfl, rfl⟩

/-- The finding on its first line only. -/
def start (finding : Finding) : Finding := { finding with further := 0 }

theorem map_start_merge (finding : Finding) (merged : List Finding) :
    (finding.merge merged).map start = finding.start :: merged.map start ∨
      (finding.merge merged).map start = merged.map start := by
  rcases merge_cases finding merged with ⟨heq, -⟩ | ⟨_, newer, run, older, -, rfl, -, -, heq⟩
  · exact .inl (by rw [heq, List.map_cons])
  · exact .inr (by rw [heq]; simp [start, longer])

/-- Consolidated findings start where findings were found, in the same order. -/
theorem sublist_consolidate (findings : List Finding) :
    ((consolidate findings).map start).Sublist (findings.map start) := by
  induction findings using List.reverseRecOn with
  | nil => exact .refl _
  | append_singleton findings finding ih =>
    rw [consolidate_concat, List.map_reverse, List.map_append]
    rcases map_start_merge finding (consolidate findings).reverse with heq | heq
    · rw [heq, List.reverse_cons, ← List.map_reverse, List.reverse_reverse]
      exact ih.append_right _
    · rw [heq, ← List.map_reverse, List.reverse_reverse]
      exact ih.trans (List.sublist_append_left _ _)

theorem exists_start_eq {findings : List Finding} (h : run ∈ consolidate findings) :
    ∃ finding ∈ findings, finding.start = run.start :=
  List.mem_map.1 ((sublist_consolidate findings).subset (List.mem_map_of_mem h))

theorem exists_of_mem_consolidate {findings : List Finding} (h : run ∈ consolidate findings) :
    ∃ finding ∈ findings, finding.message = run.message := by
  obtain ⟨finding, hfinding, hstart⟩ := exists_start_eq h
  have hmessage : finding.start.message = run.start.message := by rw [hstart]
  exact ⟨finding, hfinding, hmessage⟩

/-- Where no message occurs twice on a line, no two consolidated findings start on one line with
one message. -/
theorem pairwise_consolidate {findings : List Finding} (h : (findings.flatMap covered).Nodup) :
    (consolidate findings).Pairwise fun a b => (a.line, a.message) ≠ (b.line, b.message) := by
  have hnodup := (covered_consolidate findings).nodup_iff.2 h
  refine (List.nodup_flatMap.1 hnodup).2.imp fun {a b} hdisjoint heq => ?_
  exact hdisjoint (mem_covered a) (heq ▸ mem_covered b)

/-! ## Nothing is lost -/

/-- Whether the finding is of a line. -/
def isOnLine (finding : Finding) : Bool := finding.line.isSome

theorem filter_merge (finding : Finding) (merged : List Finding) :
    (finding.merge merged).filter (!·.isOnLine) =
      [finding].filter (!·.isOnLine) ++ merged.filter (!·.isOnLine) := by
  rcases merge_cases finding merged with
    ⟨heq, -⟩ | ⟨line, newer, run, older, hline, rfl, -, hrun, heq⟩
  · rw [heq, ← List.filter_append]
    rfl
  · -- The finding and the run are both of lines, so neither passes the filter.
    obtain ⟨-, start, hstart, -⟩ := continuedBy_iff.1 hrun
    rw [heq]
    simp [isOnLine, longer, hline, hstart]

theorem filter_consolidate (findings : List Finding) :
    (consolidate findings).filter (!·.isOnLine) = findings.filter (!·.isOnLine) := by
  induction findings using List.reverseRecOn with
  | nil => rfl
  | append_singleton findings finding ih =>
    rw [consolidate_concat, List.filter_reverse, filter_merge, List.reverse_append,
      ← List.filter_reverse, List.reverse_reverse, ih, ← List.filter_reverse,
      List.reverse_singleton, ← List.filter_append]

theorem filter_covered (finding : Finding) :
    finding.covered.filter (·.1.isSome) = if finding.isOnLine then finding.covered else [] := by
  unfold covered isOnLine
  cases finding.line with
  | none => rfl
  | some line => simp [List.filter_map, Function.comp_def]

theorem flatMap_covered_filter (findings : List Finding) :
    (findings.filter isOnLine).flatMap covered =
      (findings.flatMap covered).filter (·.1.isSome) := by
  induction findings with
  | nil => rfl
  | cons finding findings ih =>
    rw [List.flatMap_cons, List.filter_append, ← ih, filter_covered, List.filter_cons]
    cases finding.isOnLine <;> rfl

/-- **Consolidation loses and duplicates nothing.** The findings on lines cover each line with each
message as often as before, and the errors of the whole file are the same ones in the same order. -/
theorem consolidate_keeps (findings : List Finding) :
    (((consolidate findings).filter isOnLine).flatMap covered).Perm
        ((findings.filter isOnLine).flatMap covered) ∧
      (consolidate findings).filter (!·.isOnLine) = findings.filter (!·.isOnLine) := by
  refine ⟨?_, filter_consolidate findings⟩
  rw [flatMap_covered_filter, flatMap_covered_filter]
  exact (covered_consolidate findings).filter _

end StyleCheck.Finding
