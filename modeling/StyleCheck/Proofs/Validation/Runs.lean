import StyleCheck.Proofs.Validation.Message
import Mathlib.Data.List.Pairwise

/-!
# Consolidation makes runs

**Theorem (`areRuns_consolidate`).** The consolidated findings of a content are the longest runs of
consecutive lines with one message, in the order of their first lines. Whatever is merged was found
by one check, and merging again changes nothing.

The findings of a content ascend, so a finding comes after all findings of its message on earlier
lines and before all on later ones. That carries the induction (`pairwise_apart`): between two
runs of one message there is always a line without it, because a finding directly behind a run is
merged with it. The rest follows from what consolidation keeps: a line that a run could still take
in would be covered by another run, which would then touch the first.
-/

namespace StyleCheck

/-! ## Runs of lines -/

/-- A longest stretch of consecutive lines with one property. -/
structure IsRun (p : Nat → Prop) (first last : Nat) : Prop where
  le : first ≤ last
  all : ∀ i, first ≤ i → i ≤ last → p i
  before : ∀ i, i + 1 = first → ¬ p i
  after : ¬ p (last + 1)

theorem IsRun.last_unique {p : Nat → Prop} {first last last' : Nat} (h : IsRun p first last)
    (h' : IsRun p first last') : last = last' := by
  rcases Nat.lt_trichotomy last last' with hlt | heq | hlt
  · exact absurd (h'.all _ (Nat.le_succ_of_le h.le) hlt) h.after
  · exact heq
  · exact absurd (h.all _ (Nat.le_succ_of_le h'.le) hlt) h'.after

namespace Finding

variable {a b finding run : Finding} {findings merged : List Finding} {line : Nat}
  {message : String}

/-- The message was reported on the line. -/
def Reported (findings : List Finding) (message : String) (line : Nat) : Prop :=
  ∃ finding ∈ findings, finding.line = some line ∧ finding.message = message

/-- Between the lines of two findings with one message there is another line. -/
def Apart (a b : Finding) : Prop :=
  ∀ i j, a.line = some i → b.line = some j → a.message = b.message →
    i + a.further + 1 < j ∨ j + b.further + 1 < i

theorem Apart.symm (h : Apart a b) : Apart b a := by
  intro i j hi hj hmessage
  exact (h j i hj hi hmessage.symm).symm

instance : Std.Symm Apart := ⟨fun _ _ => Apart.symm⟩

theorem Apart.not_continued (h : Apart a b) (hline : b.line = some line) :
    a.continuedBy b.message line = false := by
  rw [Bool.eq_false_iff]
  intro hcontinued
  obtain ⟨hmessage, start, hstart, hnext⟩ := continuedBy_iff.1 hcontinued
  have := h start line hstart hline hmessage
  omega

/-- Findings that are apart are not merged. -/
theorem consolidate_of_apart (h : findings.Pairwise Apart) : consolidate findings = findings := by
  induction findings using List.reverseRecOn with
  | nil => rfl
  | append_singleton findings finding ih =>
    obtain ⟨hfindings, -, hfinding⟩ := List.pairwise_append.1 h
    rw [consolidate_concat, ih hfindings]
    rcases merge_cases finding findings.reverse with
      ⟨heq, -⟩ | ⟨line, newer, run, older, hline, hmerged, -, hrun, -⟩
    · rw [heq, List.reverse_cons, List.reverse_reverse]
    · have hmem : run ∈ findings := by
        rw [← List.mem_reverse, hmerged]
        exact List.mem_append_right _ List.mem_cons_self
      have hnot := (hfinding run hmem finding (List.mem_singleton_self _)).not_continued hline
      rw [hrun] at hnot
      cases hnot

/-! ## Runs stay apart -/

/-- The lines of the run are before the line, if it has the message. -/
def EndsBefore (message : String) (line : Nat) (run : Finding) : Prop :=
  run.message = message → ∀ start, run.line = some start → start + run.further < line

theorem Apart.longer (h : Apart run a) (hrun : run.continuedBy finding.message line = true)
    (hbefore : EndsBefore finding.message line a) (hfurther : finding.further = 0) :
    Apart (run.longer finding) a := by
  obtain ⟨hmessage, start, hstart, hnext⟩ := continuedBy_iff.1 hrun
  intro i j hi hj heq
  have hi : run.line = some i := hi
  have heq : run.message = a.message := heq
  have hapart := h i j hi hj heq
  have hend := hbefore (heq.symm.trans hmessage) j hj
  rw [hi, Option.some.injEq] at hstart
  show i + (run.further + 1 + finding.further) + 1 < j ∨ j + a.further + 1 < i
  omega

theorem apart_of_endsBefore (hline : finding.line = some line)
    (hrun : run.continuedBy finding.message line = false)
    (hbefore : EndsBefore finding.message line run) : Apart finding run := by
  intro i j hi hj hmessage
  rw [hline, Option.some.injEq] at hi
  have hend := hbefore hmessage.symm j hj
  have hnot : j + run.further + 1 ≠ line := fun hnext =>
    Bool.eq_false_iff.1 hrun (continuedBy_iff.2 ⟨hmessage.symm, j, hj, hnext⟩)
  omega

theorem pairwise_merge (h : merged.Pairwise Apart) (hfurther : finding.further = 0)
    (hbefore : ∀ line, finding.line = some line →
      ∀ run ∈ merged, EndsBefore finding.message line run) :
    (finding.merge merged).Pairwise Apart := by
  rcases merge_cases finding merged with
    ⟨heq, hnone⟩ | ⟨line, newer, run, older, hline, rfl, -, hrun, heq⟩
  · rw [heq]
    refine List.pairwise_cons.2 ⟨fun run hrun i j hi hj => ?_, h⟩
    exact apart_of_endsBefore hi (hnone i hi run hrun) (hbefore i hi run hrun) i j hi hj
  · rw [heq]
    have hbefore := hbefore line hline
    -- Only the run that is continued grows, by a line that all others end before.
    obtain ⟨hnewer, hrest, hacross⟩ := List.pairwise_append.1 h
    obtain ⟨holder, hothers⟩ := List.pairwise_cons.1 hrest
    refine List.pairwise_append.2 ⟨hnewer, List.pairwise_cons.2 ⟨fun other hother => ?_, hothers⟩,
      fun other hother third hthird => ?_⟩
    · exact (holder other hother).longer hrun
        (hbefore other (List.mem_append_right _ (List.mem_cons_of_mem _ hother))) hfurther
    · rcases List.mem_cons.1 hthird with rfl | hthird
      · have hapart : Apart run other := (hacross other hother run List.mem_cons_self).symm
        exact (hapart.longer hrun (hbefore other (List.mem_append_left _ hother)) hfurther).symm
      · exact hacross other hother third (List.mem_cons_of_mem _ hthird)

/-- Where every finding comes after those of its message on earlier lines, and none was merged
before, consolidation leaves a line between two runs of one message. -/
theorem pairwise_apart (hfurther : ∀ finding ∈ findings, finding.further = 0)
    (h : findings.Pairwise fun a b => ∀ line, b.line = some line → EndsBefore b.message line a) :
    (consolidate findings).Pairwise Apart := by
  induction findings using List.reverseRecOn with
  | nil => exact .nil
  | append_singleton findings finding ih =>
    obtain ⟨hfindings, -, hfinding⟩ := List.pairwise_append.1 h
    have hapart := ih (fun other hother => hfurther other (List.mem_append_left _ hother)) hfindings
    have hlast := List.mem_singleton_self finding
    rw [consolidate_concat, List.pairwise_reverse]
    refine (pairwise_merge (List.pairwise_reverse.2 (hapart.imp Apart.symm))
      (hfurther finding (List.mem_append_right _ hlast)) ?_).imp Apart.symm
    intro line hline run hrun hmessage start hstart
    -- The last line of the run is that of a finding before this one.
    have hcovered : (some (start + run.further), run.message) ∈
        (consolidate findings).flatMap covered :=
      List.mem_flatMap.2 ⟨run, List.mem_reverse.1 hrun,
        mem_covered_iff.2 ⟨start, hstart, Nat.le_add_right _ _, Nat.le_refl _, rfl⟩⟩
    rw [(covered_consolidate findings).mem_iff] at hcovered
    obtain ⟨other, hother, hplace⟩ := List.mem_flatMap.1 hcovered
    obtain ⟨first, hfirst, hle, hge, hsame⟩ := mem_covered_iff.1 hplace
    have hend := hfinding other hother finding hlast line hline (hsame.trans hmessage) first hfirst
    omega

/-! ## Runs are as long as possible -/

theorem reported_iff (hfurther : ∀ finding ∈ findings, finding.further = 0) :
    Reported findings message line ↔
      ∃ run ∈ consolidate findings, (some line, message) ∈ run.covered := by
  rw [← List.mem_flatMap, (covered_consolidate findings).mem_iff, List.mem_flatMap]
  refine exists_congr fun finding => and_congr_right fun hfinding => ?_
  rw [mem_covered_iff, hfurther finding hfinding]
  constructor
  · rintro ⟨hline, hmessage⟩
    exact ⟨line, hline, Nat.le_refl _, Nat.le_refl _, hmessage⟩
  · rintro ⟨first, hfirst, hle, hge, hmessage⟩
    rw [hfirst, Nat.le_antisymm hle hge]
    exact ⟨rfl, hmessage⟩

/-- A run that is apart from all others is as long as possible. -/
theorem isRun_of_mem (hfurther : ∀ finding ∈ findings, finding.further = 0)
    (hapart : (consolidate findings).Pairwise Apart) (hrun : run ∈ consolidate findings)
    (hline : run.line = some line) :
    IsRun (Reported findings run.message) line (line + run.further) := by
  -- A line next to the run cannot be covered by another run, which is apart.
  have hothers : ∀ i, Reported findings run.message i → line ≤ i + 1 →
      i ≤ line + run.further + 1 → line ≤ i ∧ i ≤ line + run.further := by
    intro i hi hlow hhigh
    obtain ⟨other, hother, hplace⟩ := (reported_iff hfurther).1 hi
    obtain ⟨first, hfirst, hle, hge, hmessage⟩ := mem_covered_iff.1 hplace
    by_cases heq : other = run
    · rw [heq, hline, Option.some.injEq] at hfirst
      rw [heq] at hge
      omega
    · have := hapart.forall hother hrun heq first line hfirst hline hmessage
      omega
  refine ⟨Nat.le_add_right _ _, fun i hlow hhigh => ?_, fun i hi hreported => ?_,
    fun hreported => ?_⟩
  · exact (reported_iff hfurther).2 ⟨run, hrun, mem_covered_iff.2 ⟨line, hline, hlow, hhigh, rfl⟩⟩
  · have := hothers i hreported (by omega) (by omega)
    omega
  · have := hothers _ hreported (by omega) (by omega)
    omega

/-- There is a run for each longest stretch of lines with one message. -/
theorem exists_run {first last : Nat} (hfurther : ∀ finding ∈ findings, finding.further = 0)
    (hapart : (consolidate findings).Pairwise Apart)
    (h : IsRun (Reported findings message) first last) :
    ∃ run ∈ consolidate findings, run.line = some first ∧ first + run.further = last ∧
      run.message = message := by
  obtain ⟨run, hrun, hplace⟩ :=
    (reported_iff hfurther).1 (h.all first (Nat.le_refl _) h.le)
  obtain ⟨start, hstart, hle, hge, rfl⟩ := mem_covered_iff.1 hplace
  have hrunIs := isRun_of_mem hfurther hapart hrun hstart
  by_cases hfirst : start = first
  · rw [hfirst] at hstart hrunIs
    exact ⟨run, hrun, hstart, hrunIs.last_unique h, rfl⟩
  · -- The run would start before the stretch does.
    have hbefore := hrunIs.all (first - 1) (by omega) (by omega)
    exact absurd hbefore (h.before _ (by omega))

end Finding

/-! ## The findings of a content -/

/-- The findings, merged into runs. -/
structure AreRuns (findings runs : List Finding) : Prop where
  /-- A run is a longest stretch of lines with its message. -/
  isRun : ∀ run ∈ runs, ∀ first, run.line = some first →
    IsRun (Finding.Reported findings run.message) first (first + run.further)
  /-- There is exactly one run for each such stretch. -/
  existsUnique : ∀ message first last, IsRun (Finding.Reported findings message) first last →
    ∃! run, run ∈ runs ∧ run.line = some first ∧ first + run.further = last ∧
      run.message = message
  /-- Runs ascend strictly by first line and then by check, so none is there twice. -/
  ordered : runs.Pairwise Finding.Precedes
  /-- Runs with one message neither overlap nor touch. -/
  apart : runs.Pairwise Finding.Apart
  /-- The findings that a run stands for are of its check. -/
  check : ∀ run ∈ runs, ∀ finding ∈ findings,
    (finding.line, finding.message) ∈ run.covered → finding.check = run.check
  /-- Runs stay as they are when they are merged again. -/
  again : Finding.consolidate runs = runs

namespace Validation

variable {content : List Char} {settings : EditorSettings} {options : CheckOptions}
  {finding run : Finding}

/-- A finding is before those of its message that come after it. -/
theorem endsBefore_of_precedes {a b : Finding}
    (ha : a ∈ contentFindings content settings options)
    (hb : b ∈ contentFindings content settings options) (h : a.Precedes b) {line : Nat}
    (hline : b.line = some line) : a.EndsBefore b.message line := by
  intro hmessage start hstart
  obtain ⟨place, violation, rfl⟩ := exists_of_mem_contentFindings ha
  obtain ⟨place', violation', rfl⟩ := exists_of_mem_contentFindings hb
  have hstart : place = some start := hstart
  have hline : place' = some line := hline
  have hcheck : violation.check = violation'.check := Violation.check_of_message_eq hmessage
  rcases h with hlt | ⟨-, hlt⟩
  · rw [hstart, hline] at hlt
    exact Nat.lt_of_succ_lt_succ hlt
  · have hlt : violation.check.rank < violation'.check.rank := hlt
    rw [hcheck] at hlt
    exact absurd hlt (Nat.lt_irrefl _)

theorem check_of_message_eq_of_mem {a b : Finding}
    (ha : a ∈ contentFindings content settings options)
    (hb : b ∈ contentFindings content settings options) (h : a.message = b.message) :
    a.check = b.check := by
  obtain ⟨_, violation, rfl⟩ := exists_of_mem_contentFindings ha
  obtain ⟨_, violation', rfl⟩ := exists_of_mem_contentFindings hb
  exact Violation.check_of_message_eq h

/-- **Consolidation computes the runs** of the findings of a content. -/
theorem areRuns_consolidate (content : List Char) (settings : EditorSettings)
    (options : CheckOptions) :
    AreRuns (contentFindings content settings options)
      (Finding.consolidate (contentFindings content settings options)) := by
  have hfurther : ∀ finding ∈ contentFindings content settings options, finding.further = 0 := by
    intro finding hfinding
    obtain ⟨line, violation, rfl⟩ := exists_of_mem_contentFindings hfinding
    rfl
  have hordered := pairwise_contentFindings content settings options
  have hapart : (Finding.consolidate (contentFindings content settings options)).Pairwise
      Finding.Apart := by
    refine Finding.pairwise_apart hfurther (hordered.imp_of_mem ?_)
    intro a b ha hb hab line hline
    exact endsBefore_of_precedes ha hb hab hline
  constructor
  case isRun =>
    intro run hrun first hfirst
    exact Finding.isRun_of_mem hfurther hapart hrun hfirst
  case existsUnique =>
    intro message first last h
    obtain ⟨run, hrun, hfirst, hlast, hmessage⟩ := Finding.exists_run hfurther hapart h
    refine ⟨run, ⟨hrun, hfirst, hlast, hmessage⟩, ?_⟩
    rintro other ⟨hother, hfirst', hlast', hmessage'⟩
    by_contra hne
    have := hapart.forall hother hrun hne first first hfirst' hfirst
      (hmessage'.trans hmessage.symm)
    omega
  case ordered =>
    -- The order looks at the starts only.
    have hstarts : ((contentFindings content settings options).map Finding.start).Pairwise
        Finding.Precedes := List.pairwise_map.2 hordered
    have hruns := hstarts.sublist (Finding.sublist_consolidate _)
    exact (List.pairwise_map.1 hruns).imp fun hab => hab
  case apart => exact hapart
  case check =>
    intro run hrun finding hfinding hcovered
    obtain ⟨first, hfirst, hstart⟩ := Finding.exists_start_eq hrun
    have hcheck : first.start.check = run.start.check := by rw [hstart]
    have hmessage : first.start.message = run.start.message := by rw [hstart]
    have hsame := Finding.message_of_mem_covered hcovered
    exact (check_of_message_eq_of_mem hfinding hfirst (hsame.trans hmessage.symm)).trans hcheck
  case again => exact Finding.consolidate_of_apart hapart

end Validation

end StyleCheck
