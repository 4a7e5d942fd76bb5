import StyleCheck.Proofs.Validation.Content

/-!
# Switching checks off

**Theorem (`contentFindings_disabled`).** When further checks are switched off, the findings of
these checks are gone, and all others are there as before and in the same order.

What is found with some checks switched off is what is found with all of them on, without the
findings of those that are off (`contentFindings_eq_filter`); two such filters differ by a third
one (`silences_eq_or`). Every check is left out as a whole, except for the size of an indentation,
which the rule for spaces asks for itself. It does so behind the test of the style, so a finding
on the style is not hidden, and none appears (`space_eq_filter`).
-/

namespace StyleCheck

namespace DisabledChecks

variable {first second : DisabledChecks}

/-- Whether findings of the check are left out. The switch of the indentation is one for its style
and for its size. -/
def silences (disabled : DisabledChecks) : Check → Bool
  | .insertFinalNewline => disabled.insertFinalNewline
  | .endOfLine => disabled.endOfLine
  | .trimTrailingWhitespace => disabled.trimTrailingWhitespace
  | .indentStyle => disabled.indentation
  | .indentSize => disabled.indentation || disabled.indentSize
  | .maxLineLength => disabled.maxLineLength
  | .file => false

/-- Every switch of the first is one of the second. -/
structure Within (first second : DisabledChecks) : Prop where
  trimTrailingWhitespace : first.trimTrailingWhitespace = true → second.trimTrailingWhitespace = true
  endOfLine : first.endOfLine = true → second.endOfLine = true
  insertFinalNewline : first.insertFinalNewline = true → second.insertFinalNewline = true
  indentation : first.indentation = true → second.indentation = true
  indentSize : first.indentSize = true → second.indentSize = true
  maxLineLength : first.maxLineLength = true → second.maxLineLength = true

/-- The switches of the second that the first does not have. -/
def added (first second : DisabledChecks) : DisabledChecks where
  trimTrailingWhitespace := second.trimTrailingWhitespace && !first.trimTrailingWhitespace
  endOfLine := second.endOfLine && !first.endOfLine
  insertFinalNewline := second.insertFinalNewline && !first.insertFinalNewline
  indentation := second.indentation && !first.indentation
  indentSize := second.indentSize && !first.indentSize
  maxLineLength := second.maxLineLength && !first.maxLineLength

/-- What the second leaves out is what the first leaves out and what is left out in addition. -/
theorem silences_eq_or (h : first.Within second) (check : Check) :
    second.silences check = (first.silences check || (first.added second).silences check) := by
  have hor : ∀ {a b : Bool}, (a = true → b = true) → b = (a || (b && !a)) := by
    intro a b hab
    cases a <;> cases b <;> simp_all
  cases check with
  | insertFinalNewline => exact hor h.insertFinalNewline
  | endOfLine => exact hor h.endOfLine
  | trimTrailingWhitespace => exact hor h.trimTrailingWhitespace
  | indentStyle => exact hor h.indentation
  | indentSize =>
    -- The size is left out by its own switch and by that of the indentation.
    calc (second.indentation || second.indentSize)
      _ = ((first.indentation || (second.indentation && !first.indentation)) ||
          (first.indentSize || (second.indentSize && !first.indentSize))) :=
        congrArg₂ or (hor h.indentation) (hor h.indentSize)
      _ = ((first.indentation || first.indentSize) ||
          ((second.indentation && !first.indentation) ||
            (second.indentSize && !first.indentSize))) := by ac_rfl
  | maxLineLength => exact hor h.maxLineLength
  | file => rfl

end DisabledChecks

/-- A check is told by its place, except for those of the indentation. -/
theorem Check.eq_of_rank_eq {a b : Check} (h : a.rank = b.rank) (hb : b.rank ≠ 3) : a = b := by
  cases a <;> cases b <;> simp_all [rank]

/-- The options with all checks switched on. -/
def CheckOptions.withAllChecks (options : CheckOptions) : CheckOptions :=
  { options with disabled := {} }

namespace Validation

variable {content line : List Char} {settings : EditorSettings} {options : CheckOptions}
  {disabled : DisabledChecks} {violation : Violation} {found : Option Violation}

/-! ## Rules -/

/-- Whether a violation is still reported when some checks are switched off. -/
def isKept (disabled : DisabledChecks) (violation : Violation) : Bool :=
  !disabled.silences violation.check

/-- Whether a violation is still found when the size of indentations may not be checked. -/
def isKeptSize (disabled : DisabledChecks) (violation : Violation) : Bool :=
  !(disabled.indentSize && violation.check == .indentSize)

theorem filter_isKeptSize
    (h : ∀ violation, found = some violation → isKeptSize disabled violation = true) :
    found.filter (isKeptSize disabled) = found := by
  ext violation
  rw [Option.filter_eq_some_iff]
  exact and_iff_left_of_imp (h violation)

/-- Without the check of the size, the rule for spaces finds what it finds on the style, and
nothing else. -/
theorem space_eq_filter (line : List Char) (size : Nat) (options : CheckOptions) :
    Rule.space line size options =
      (Rule.space line size options.withAllChecks).filter (isKeptSize options.disabled) := by
  unfold Rule.space
  by_cases hempty : line.isEmpty
  · rw [if_pos hempty, if_pos hempty]
    rfl
  rw [if_neg hempty, if_neg hempty]
  by_cases hstyle : !Rule.spaceIndent.isPrefixMatch line
  · -- The style is tested first, whether the size is checked or not.
    rw [if_pos hstyle, if_pos hstyle, filter_isKeptSize]
    rintro _ ⟨⟩
    exact congrArg not (Bool.and_false _)
  rw [if_neg hstyle, if_neg hstyle]
  cases hswitch : options.disabled.indentSize with
  | false =>
    rw [filter_isKeptSize]
    · rfl
    · intro violation _
      rw [isKeptSize, hswitch]
      rfl
  | true =>
    refine (Option.filter_eq_none_iff.2 fun violation h => ?_).symm
    obtain ⟨-, h⟩ := Option.ite_none_left_eq_some.1 h
    obtain ⟨-, ⟨⟩⟩ := Option.ite_none_right_eq_some.1 h
    simp [isKeptSize, hswitch, Violation.check]

theorem check_tab (h : Rule.tab line options = some violation) :
    violation.check = .indentStyle := by
  unfold Rule.tab at h
  obtain ⟨-, h⟩ := Option.ite_none_left_eq_some.1 h
  obtain ⟨-, ⟨⟩⟩ := Option.ite_none_left_eq_some.1 h
  rfl

theorem indentation_eq_filter (line : List Char) (style : Option IndentStyle) (size : Nat)
    (options : CheckOptions) :
    Rule.indentation line style size options =
      (Rule.indentation line style size options.withAllChecks).filter
        (isKeptSize options.disabled) := by
  cases style with
  | none => rfl
  | some style =>
    cases style with
    | space => exact space_eq_filter line size options
    | tab =>
      refine (filter_isKeptSize fun violation h => ?_).symm
      rw [isKeptSize, check_tab h]
      exact congrArg not (Bool.and_false _)

/-! ## Reports -/

/-- A check that is left out as a whole. -/
theorem reported_eq_filter (check : Check) (hcheck : check.rank ≠ 3)
    (h : ∀ violation, found = some violation → violation.check.rank = check.rank) :
    reported (disabled.silences check) found =
      (reported false found).filter (isKept disabled) := by
  cases found with
  | none => cases disabled.silences check <;> rfl
  | some violation =>
    have hviolation : violation.check = check := Check.eq_of_rank_eq (h violation rfl) hcheck
    cases hsilences : disabled.silences check <;>
      simp [reported, isKept, hviolation, hsilences]

/-- The checks of the indentation are left out together, or the one of the size alone. -/
theorem reported_indentation_eq_filter (line : List Char) (style : Option IndentStyle) (size : Nat)
    (options : CheckOptions) :
    reported options.disabled.indentation (Rule.indentation line style size options) =
      (reported false (Rule.indentation line style size options.withAllChecks)).filter
        (isKept options.disabled) := by
  have hcheck : ∀ violation ∈ reported false
      (Rule.indentation line style size options.withAllChecks),
      violation.check = .indentStyle ∨ violation.check = .indentSize := by
    intro violation h
    have hrank := rank_of_mem_reported (fun _ => rank_indentation) h
    cases hviolation : violation.check <;> simp_all [Check.rank]
  cases hswitch : options.disabled.indentation with
  | true =>
    refine (List.filter_eq_nil_iff.2 fun violation h => ?_).symm
    rcases hcheck violation h with h | h <;> simp [isKept, DisabledChecks.silences, h, hswitch]
  | false =>
    -- With the rule switched on, a violation is left out for its size only.
    have hkept : ∀ violation ∈ reported false
        (Rule.indentation line style size options.withAllChecks),
        isKept options.disabled violation = isKeptSize options.disabled violation := by
      intro violation h
      rcases hcheck violation h with h | h <;>
        simp [isKept, isKeptSize, DisabledChecks.silences, h, hswitch]
    rw [List.filter_congr hkept, indentation_eq_filter]
    exact Option.toList_filter

theorem wholeViolations_eq_filter (content : List Char) (settings : EditorSettings)
    (disabled : DisabledChecks) :
    wholeViolations content settings disabled =
      (wholeViolations content settings {}).filter (isKept disabled) := by
  unfold wholeViolations
  rw [List.filter_append]
  congr 1
  · exact reported_eq_filter .insertFinalNewline (by decide) fun _ => rank_finalNewline
  · exact reported_eq_filter .endOfLine (by decide) fun _ => rank_lineEnding

theorem lineViolations_eq_filter (line : List Char) (settings : EditorSettings)
    (options : CheckOptions) :
    lineViolations line settings options =
      (lineViolations line settings options.withAllChecks).filter (isKept options.disabled) := by
  unfold lineViolations
  rw [List.filter_append, List.filter_append]
  congr 1
  · congr 1
    · exact reported_eq_filter .trimTrailingWhitespace (by decide) fun _ => rank_trailingWhitespace
    · exact reported_indentation_eq_filter line settings.indentStyle settings.indentSize options
  · exact reported_eq_filter .maxLineLength (by decide) fun _ => rank_maxLineLength

/-! ## Findings -/

/-- **What is found with some checks switched off** is what is found with all of them on, without
the findings of those that are off. -/
theorem contentFindings_eq_filter (content : List Char) (settings : EditorSettings)
    (options : CheckOptions) :
    contentFindings content settings options =
      (contentFindings content settings options.withAllChecks).filter fun finding =>
        !options.disabled.silences finding.check := by
  have hmap : ∀ (line : Option Nat) (violations : List Violation),
      (violations.map (Finding.ofViolation line)).filter (fun finding =>
        !options.disabled.silences finding.check) =
      (violations.filter (isKept options.disabled)).map (Finding.ofViolation line) :=
    fun line violations => List.filter_map
  rw [contentFindings_eq_append, contentFindings_eq_append, List.filter_append,
    List.filter_flatMap]
  congr 1
  · rw [wholeFindings_eq, wholeFindings_eq, apply_ite (List.filter _), hmap,
      wholeViolations_eq_filter]
    rfl
  · congr 1
    funext entry
    rw [apply_ite (List.filter _), lineFindings_eq, lineFindings_eq, hmap, lineViolations_eq_filter]
    rfl

/-- **Switching further checks off** takes the findings of these checks away, and leaves all others
as they are and in their order. -/
theorem contentFindings_disabled (content : List Char) (settings : EditorSettings)
    (options : CheckOptions) {disabled : DisabledChecks}
    (h : options.disabled.Within disabled) :
    contentFindings content settings { options with disabled } =
      (contentFindings content settings options).filter fun finding =>
        !(options.disabled.added disabled).silences finding.check := by
  rw [contentFindings_eq_filter content settings { options with disabled },
    contentFindings_eq_filter content settings options, List.filter_filter]
  refine List.filter_congr fun finding _ => ?_
  rw [DisabledChecks.silences_eq_or h, Bool.not_or, Bool.and_comm]

/-- A tab and three spaces where indentations are two spaces wide: without the check of the size,
the error on the style stays. -/
theorem contentFindings_disabled_indentSize :
    let content := "\tx \n   y\n".toList
    let settings : EditorSettings :=
      { indentStyle := some .space, indentSize := 2, trimTrailingWhitespace := true }
    let options : CheckOptions := { disabled := { trimTrailingWhitespace := true } }
    let disabled : DisabledChecks := { trimTrailingWhitespace := true, indentSize := true }
    options.disabled.Within disabled ∧
      (contentFindings content settings options).map (·.check) = [.indentStyle, .indentSize] ∧
      (contentFindings content settings { options with disabled }).map (·.check) =
        [.indentStyle] ∧
      contentFindings content settings { options with disabled } =
        (contentFindings content settings options).filter fun finding =>
          !(options.disabled.added disabled).silences finding.check := by
  intro content settings options disabled
  have h : options.disabled.Within disabled := by
    constructor <;> decide
  exact ⟨h, by decide, by decide, contentFindings_disabled content settings options h⟩

end Validation

end StyleCheck
