import StyleCheck.Proofs.Order
import StyleCheck.Proofs.Validation.Exemption

/-!
# What is found in a content

**Theorem (`contentFindings_eq`).** The findings in a content are those of the content as a whole,
unless it is empty, and then for each line that is not exempt those of the line. Each check that is
on gives the violation of its rule, if there is one. The findings ascend strictly, by line and then
by check, so no check reports a line twice.

The loop over the lines is followed by induction on the lines that remain. It carries whether a
block is open, which is `skippingAt` of the lines that are done (`linesFindings_eq`). The order
comes from the numbers of the lines between lines, and within a line from the check that each rule
belongs to.
-/

namespace StyleCheck

/-! ## The order of findings -/

/-- The place of a check in the order of checks. The two checks of the indentation share one. -/
def Check.rank : Check → Nat
  | insertFinalNewline => 0
  | endOfLine => 1
  | trimTrailingWhitespace => 2
  | indentStyle | indentSize => 3
  | maxLineLength => 4
  | file => 5

/-- The place of the line of a finding. The content as a whole comes before its first line. -/
def Finding.place (finding : Finding) : Nat := finding.line.elim 0 (· + 1)

/-- The finding is on an earlier line than the other one, or on the same and of an earlier check. -/
def Finding.Precedes (a b : Finding) : Prop :=
  a.place < b.place ∨ a.place = b.place ∧ a.check.rank < b.check.rank

namespace Validation

variable {content line : List Char} {settings : EditorSettings} {options : CheckOptions}
  {violation : Violation} {finding : Finding} {i : Nat}

/-! ## Rules and their checks -/

theorem rank_finalNewline {wanted : Option Bool} {ending : Option EndOfLine}
    (h : Rule.finalNewline content wanted ending = some violation) : violation.check.rank = 0 := by
  unfold Rule.finalNewline at h
  split at h
  · obtain ⟨-, ⟨⟩⟩ := Option.ite_none_left_eq_some.1 h
    rfl
  · obtain ⟨-, ⟨⟩⟩ := Option.ite_none_left_eq_some.1 h
    rfl
  · obtain ⟨-, ⟨⟩⟩ := Option.ite_none_right_eq_some.1 h
    rfl
  · cases h

theorem rank_lineEnding {ending : Option EndOfLine}
    (h : Rule.lineEnding content ending = some violation) : violation.check.rank = 1 := by
  obtain ⟨-, ⟨⟩⟩ := Option.ite_none_left_eq_some.1 h
  rfl

theorem rank_trailingWhitespace {enabled : Bool}
    (h : Rule.trailingWhitespace line enabled = some violation) : violation.check.rank = 2 := by
  obtain ⟨-, ⟨⟩⟩ := Option.ite_none_right_eq_some.1 h
  rfl

theorem rank_space {size : Nat} (h : Rule.space line size options = some violation) :
    violation.check.rank = 3 := by
  unfold Rule.space at h
  obtain ⟨-, h⟩ := Option.ite_none_left_eq_some.1 h
  split at h
  · cases h
    rfl
  · obtain ⟨-, h⟩ := Option.ite_none_left_eq_some.1 h
    obtain ⟨-, ⟨⟩⟩ := Option.ite_none_right_eq_some.1 h
    rfl

theorem rank_tab (h : Rule.tab line options = some violation) : violation.check.rank = 3 := by
  unfold Rule.tab at h
  obtain ⟨-, h⟩ := Option.ite_none_left_eq_some.1 h
  obtain ⟨-, ⟨⟩⟩ := Option.ite_none_left_eq_some.1 h
  rfl

theorem rank_indentation {style : Option IndentStyle} {size : Nat}
    (h : Rule.indentation line style size options = some violation) :
    violation.check.rank = 3 := by
  unfold Rule.indentation at h
  split at h
  · exact rank_space h
  · exact rank_tab h
  · cases h

theorem rank_maxLineLength {max : Nat} {charset : Option String}
    (h : Rule.maxLineLength line max charset = some violation) : violation.check.rank = 4 := by
  obtain ⟨-, ⟨⟩⟩ := Option.ite_none_right_eq_some.1 h
  rfl

/-! ## Reported violations -/

/-- What a check reports: nothing if it is switched off, and else the violation of its rule. -/
def reported (disabled : Bool) (violation : Option Violation) : List Violation :=
  if disabled then [] else violation.toList

/-- What the checks of the content as a whole report. -/
def wholeViolations (content : List Char) (settings : EditorSettings) (disabled : DisabledChecks) :
    List Violation :=
  reported disabled.insertFinalNewline
    (Rule.finalNewline content settings.insertFinalNewline settings.endOfLine) ++
  reported disabled.endOfLine (Rule.lineEnding content settings.endOfLine)

/-- What the checks of a line report. -/
def lineViolations (line : List Char) (settings : EditorSettings) (options : CheckOptions) :
    List Violation :=
  reported options.disabled.trimTrailingWhitespace
    (Rule.trailingWhitespace line settings.trimTrailingWhitespace) ++
  reported options.disabled.indentation
    (Rule.indentation line settings.indentStyle settings.indentSize options) ++
  reported options.disabled.maxLineLength
    (Rule.maxLineLength line settings.maxLineLength settings.charset)

theorem filterMap_cons_reported (disabled : Bool) (violation : Option Violation)
    (others : List (Option Violation)) :
    ((if disabled then none else violation) :: others).filterMap id =
      reported disabled violation ++ others.filterMap id := by
  cases disabled <;> cases violation <;> rfl

theorem wholeFindings_eq (content : List Char) (settings : EditorSettings)
    (options : CheckOptions) :
    wholeFindings content settings options =
      if content = [] then []
      else (wholeViolations content settings options.disabled).map (.ofViolation none) := by
  unfold wholeFindings wholeViolations
  simp only [filterMap_cons_reported, List.isEmpty_iff]
  simp

theorem lineFindings_eq (line : List Char) (i : Nat) (settings : EditorSettings)
    (options : CheckOptions) :
    lineFindings line i settings options =
      (lineViolations line settings options).map (.ofViolation (some i)) := by
  unfold lineFindings lineViolations
  simp only [filterMap_cons_reported]
  simp

/-! ## The loop over the lines -/

theorem linesFindings_cons (skipping : Bool) (i : Nat) (line : List Char)
    (lines : List (List Char)) :
    linesFindings settings options skipping i (line :: lines) =
      (if isPassed skipping line then [] else lineFindings line i settings options) ++
        linesFindings settings options (skippingAfter skipping line) (i + 1) lines := by
  rw [linesFindings]
  cases skipping with
  | false => simp [isPassed, skippingAfter]
  | true => cases hstop : Marker.stop.occursIn line <;> simp [isPassed, skippingAfter, hstop]

/-- What is found in the lines from number `done.length` on. -/
theorem linesFindings_eq {lines : List (List Char)} (done rest : List (List Char))
    (h : lines = done ++ rest) :
    linesFindings settings options (skippingAt lines done.length) done.length rest =
      (rest.zipIdx done.length).flatMap fun entry =>
        if IsExempt lines entry.2 then [] else lineFindings entry.1 entry.2 settings options := by
  induction rest generalizing done with
  | nil => rfl
  | cons line rest ih =>
    have hline : lines[done.length]? = some line := by
      rw [h, List.getElem?_append_right (Nat.le_refl _), Nat.sub_self]
      rfl
    have hrest := ih (done ++ [line]) (by rw [h, List.append_assoc]; rfl)
    rw [List.length_append, List.length_singleton, skippingAt_succ hline] at hrest
    rw [List.zipIdx_cons, List.flatMap_cons, ← hrest, linesFindings_cons]
    simp only [isExempt_iff_isPassed hline]

/-! ## Order -/

theorem rank_of_mem_reported {disabled : Bool} {found : Option Violation} {rank : Nat}
    (hrank : ∀ violation, found = some violation → violation.check.rank = rank)
    (h : violation ∈ reported disabled found) : violation.check.rank = rank := by
  unfold reported at h
  split at h
  · cases h
  · exact hrank violation (Option.mem_toList.1 h)

theorem pairwise_reported (disabled : Bool) (found : Option Violation)
    (R : Violation → Violation → Prop) : (reported disabled found).Pairwise R := by
  unfold reported
  cases disabled <;> cases found <;> simp

theorem pairwise_wholeViolations (content : List Char) (settings : EditorSettings)
    (disabled : DisabledChecks) :
    (wholeViolations content settings disabled).Pairwise
      fun a b => a.check.rank < b.check.rank := by
  refine List.pairwise_append.2 ⟨pairwise_reported .., pairwise_reported .., fun a ha b hb => ?_⟩
  rw [rank_of_mem_reported (fun _ => rank_finalNewline) ha,
    rank_of_mem_reported (fun _ => rank_lineEnding) hb]
  exact Nat.zero_lt_one

theorem pairwise_lineViolations (line : List Char) (settings : EditorSettings)
    (options : CheckOptions) :
    (lineViolations line settings options).Pairwise fun a b => a.check.rank < b.check.rank := by
  refine List.pairwise_append.2 ⟨List.pairwise_append.2 ⟨pairwise_reported .., pairwise_reported ..,
    fun a ha b hb => ?_⟩, pairwise_reported .., fun a ha b hb => ?_⟩
  · rw [rank_of_mem_reported (fun _ => rank_trailingWhitespace) ha,
      rank_of_mem_reported (fun _ => rank_indentation) hb]
    decide
  · rw [rank_of_mem_reported (fun _ => rank_maxLineLength) hb]
    rcases List.mem_append.1 ha with ha | ha
    · rw [rank_of_mem_reported (fun _ => rank_trailingWhitespace) ha]
      decide
    · rw [rank_of_mem_reported (fun _ => rank_indentation) ha]
      decide

theorem pairwise_ofViolation {violations : List Violation} (line : Option Nat)
    (h : violations.Pairwise fun a b => a.check.rank < b.check.rank) :
    (violations.map (Finding.ofViolation line)).Pairwise Finding.Precedes :=
  List.pairwise_map.2 (h.imp fun hab => .inr ⟨rfl, hab⟩)

theorem line_of_mem_lineFindings (h : finding ∈ lineFindings line i settings options) :
    finding.line = some i := by
  rw [lineFindings_eq] at h
  obtain ⟨violation, -, rfl⟩ := List.mem_map.1 h
  rfl

theorem line_of_mem_wholeFindings (h : finding ∈ wholeFindings content settings options) :
    finding.line = none := by
  rw [wholeFindings_eq] at h
  split at h
  · cases h
  · obtain ⟨violation, -, rfl⟩ := List.mem_map.1 h
    rfl

theorem contentFindings_eq_append (content : List Char) (settings : EditorSettings)
    (options : CheckOptions) :
    contentFindings content settings options =
      wholeFindings content settings options ++
        (Text.lines content).zipIdx.flatMap fun entry =>
          if IsExempt (Text.lines content) entry.2 then []
          else lineFindings entry.1 entry.2 settings options := by
  exact congrArg (wholeFindings content settings options ++ ·)
    (linesFindings_eq [] (Text.lines content) rfl)

theorem exists_of_mem_contentFindings (h : finding ∈ contentFindings content settings options) :
    ∃ line violation, finding = .ofViolation line violation := by
  rw [contentFindings_eq_append] at h
  rcases List.mem_append.1 h with h | h
  · rw [wholeFindings_eq] at h
    split at h
    · cases h
    · obtain ⟨violation, -, rfl⟩ := List.mem_map.1 h
      exact ⟨none, violation, rfl⟩
  · obtain ⟨entry, -, h⟩ := List.mem_flatMap.1 h
    split at h
    · cases h
    · rw [lineFindings_eq] at h
      obtain ⟨violation, -, rfl⟩ := List.mem_map.1 h
      exact ⟨some entry.2, violation, rfl⟩

theorem pairwise_contentFindings (content : List Char) (settings : EditorSettings)
    (options : CheckOptions) :
    (contentFindings content settings options).Pairwise Finding.Precedes := by
  rw [contentFindings_eq_append]
  refine List.pairwise_append.2 ⟨?_, List.pairwise_flatMap.2 ⟨fun entry _ => ?_, ?_⟩, ?_⟩
  · rw [wholeFindings_eq]
    split
    · exact .nil
    · exact pairwise_ofViolation none (pairwise_wholeViolations content settings options.disabled)
  · split
    · exact .nil
    · rw [lineFindings_eq]
      exact pairwise_ofViolation _ (pairwise_lineViolations entry.1 settings options)
  · -- Findings of different lines are in the order of the lines.
    refine (pairwise_zipIdx _).imp fun {first second} hlt a ha b hb => ?_
    split at ha
    · cases ha
    split at hb
    · cases hb
    refine .inl ?_
    rw [Finding.place, Finding.place, line_of_mem_lineFindings ha, line_of_mem_lineFindings hb]
    exact Nat.succ_lt_succ hlt
  · intro a ha b hb
    obtain ⟨entry, -, hb⟩ := List.mem_flatMap.1 hb
    split at hb
    · cases hb
    refine .inl ?_
    rw [Finding.place, Finding.place, line_of_mem_wholeFindings ha, line_of_mem_lineFindings hb]
    exact Nat.succ_pos entry.2

/-! ## Main result -/

/-- **What is found in a content**, and that it ascends strictly by line and check, so that no
check reports a line twice. -/
theorem contentFindings_eq (content : List Char) (settings : EditorSettings)
    (options : CheckOptions) :
    contentFindings content settings options =
      (if content = [] then []
        else (wholeViolations content settings options.disabled).map (.ofViolation none)) ++
      ((Text.lines content).zipIdx.flatMap fun entry =>
        if IsExempt (Text.lines content) entry.2 then []
        else (lineViolations entry.1 settings options).map (.ofViolation (some entry.2))) ∧
    (contentFindings content settings options).Pairwise Finding.Precedes ∧
    ((contentFindings content settings options).map fun f => (f.line, f.check)).Nodup := by
  refine ⟨?_, pairwise_contentFindings content settings options, ?_⟩
  · rw [contentFindings_eq_append, wholeFindings_eq]
    simp only [lineFindings_eq]
  · refine List.pairwise_map.2 ((pairwise_contentFindings content settings options).imp ?_)
    intro a b hab heq
    obtain ⟨hline, hcheck⟩ := Prod.mk.inj heq
    rcases hab with hlt | ⟨-, hlt⟩
    · rw [Finding.place, Finding.place, hline] at hlt
      exact Nat.lt_irrefl _ hlt
    · rw [hcheck] at hlt
      exact Nat.lt_irrefl _ hlt

end Validation

end StyleCheck
