import StyleCheck.Proofs.Charset.Decoding
import StyleCheck.Proofs.Text.FirstLine
import StyleCheck.Proofs.Validation.ExemptText
import StyleCheck.Proofs.Validation.Indentation
import StyleCheck.Proofs.Validation.LineLength

/-!
# Contents with a byte order mark

Decoding leaves the byte order mark of a file in its text, where it is the first character of the
first line. In a charset whose lines are measured in characters it should make no difference to
what is found.

**Theorem (`contentFindings_mark`).** A mark in front of a content takes away what is found on the
indentation of its first line, and changes nothing else. So it makes no difference exactly if that
indentation is not checked, is exempt or has no fault.

Two runs are compared, with the mark and without. The checks of the content as a whole see the ends
of lines, which are the same, and all lines but the first are the same too. The first line keeps its
markers (`occursIn_mark`), its end and its length, since a length does not count the mark. But
behind a mark no indentation is seen: the line starts with neither a space nor a tab
(`indentation_of_head?`).
-/

namespace StyleCheck

/-- The finding is about the indentation of the first line. -/
def Finding.isOnFirstIndent (finding : Finding) : Bool :=
  finding.line == some 0 && (finding.check == .indentStyle || finding.check == .indentSize)

/-! ## Rules -/

namespace Rule

open Charset (byteOrderMark)

variable {c : Char} {line : List Char}

theorem behind_of_head? (h : line.head? ≠ some c) : leading c line = 0 ∧ behind c line = line := by
  cases line with
  | nil => exact ⟨rfl, rfl⟩
  | cons d line =>
    have hd : (d == c) = false := beq_eq_false_iff_ne.2 fun heq => h (congrArg some heq)
    simp [leading, behind, hd]

theorem space_of_head? (hspace : line.head? ≠ some ' ') (htab : line.head? ≠ some '\t')
    (size : Nat) (options : CheckOptions) : space line size options = none := by
  obtain ⟨hleading, hbehind⟩ := behind_of_head? hspace
  have hindent : spaceIndent.isPrefixMatch line = true := by
    rw [isPrefixMatch_spaceIndent, hbehind]
    exact htab
  have hsized : (sizedIndent size).isPrefixMatch line = true := by
    rw [isPrefixMatch_sizedIndent, hleading, hbehind]
    exact .inl ⟨Nat.dvd_zero size, htab⟩
  simp [space_eq, hindent, hsized]

theorem tab_of_head? (hspace : line.head? ≠ some ' ') (htab : line.head? ≠ some '\t')
    (options : CheckOptions) : tab line options = none := by
  have hindent := isPrefixMatch_tabIndent (a := 0) (b := 0) hspace htab
  exact (tab_eq_none_iff_match line options).2 (.inl (hindent.2 (.inl rfl)))

/-- A line that is not indented breaks no rule on indentation. -/
theorem indentation_of_head? (hspace : line.head? ≠ some ' ') (htab : line.head? ≠ some '\t')
    (style : Option IndentStyle) (size : Nat) (options : CheckOptions) :
    indentation line style size options = none := by
  cases style with
  | none => rfl
  | some style =>
    cases style with
    | space => exact space_of_head? hspace htab size options
    | tab => exact tab_of_head? hspace htab options

theorem trailingWhitespace_mark (line : List Char) (enabled : Bool) :
    trailingWhitespace (byteOrderMark :: line) enabled = trailingWhitespace line enabled := by
  cases line with
  | nil => rfl
  | cons c line =>
    unfold trailingWhitespace
    rw [List.getLast?_cons_cons]

/-- A length in characters does not count a mark. -/
theorem maxLineLength_mark {name : String} (hname : IsCounted name)
    (hline : line.head? ≠ some byteOrderMark) (max : Nat) :
    maxLineLength (byteOrderMark :: line) max (some name) = maxLineLength line max (some name) := by
  have hcounted : countsCharacters (some name) = true := countsCharacters_iff.2 hname
  have hlength : lineLength (byteOrderMark :: line) (some name) = lineLength line (some name) := by
    simp only [lineLength, if_pos hcounted]
    split
    next rest heq =>
      cases heq
      split
      next hrest => exact absurd rfl hline
      · rfl
    next hnot => exact absurd rfl (hnot line)
  unfold maxLineLength
  rw [hlength]

end Rule

namespace Validation

open Charset (byteOrderMark)

variable {first content : List Char} {settings : EditorSettings} {options : CheckOptions}
  {finding : Finding} {violation : Violation} {name : String}

/-! ## Markers and lines -/

/-- No marker starts with a byte order mark. -/
theorem occursIn_mark (marker : Marker) (line : List Char) :
    marker.occursIn (byteOrderMark :: line) = marker.occursIn line := by
  have hdrop : Text.dropWord? marker.text.toList (byteOrderMark :: line) = none := by
    cases marker <;> rfl
  unfold Marker.occursIn Text.hasWord
  rw [Text.cutAtWord, hdrop]
  exact Option.isSome_map

theorem isInLine_mark : byteOrderMark ≠ '\n' ∧ byteOrderMark ≠ '\r' := by decide

theorem lines_mark (hne : content ≠ []) :
    ∃ first rest, Text.lines content = first :: rest ∧
      Text.lines (byteOrderMark :: content) = (byteOrderMark :: first) :: rest := by
  cases hsegments : Text.segments content with
  | nil =>
    have hjoined := Text.joined_segments content
    rw [hsegments] at hjoined
    exact absurd hjoined.symm hne
  | cons segment list =>
    refine ⟨segment.1, list.map Prod.fst, by rw [Text.lines, hsegments]; rfl, ?_⟩
    rw [Text.lines, Text.segments_push_cons isInLine_mark hsegments]
    rfl

theorem head?_first {rest : List (List Char)} {c : Char}
    (hlines : Text.lines content = first :: rest) (h : first.head? = some c) :
    content.head? = some c := by
  have hne : content ≠ [] := by
    rintro rfl
    cases hlines
  have hfirst : some first = some (content.takeWhile Text.isInLine) := by
    rw [← Text.head?_lines hne, hlines]
    rfl
  rw [Option.some.inj hfirst, List.head?_takeWhile, Option.filter_eq_some_iff] at h
  exact h.1

/-- The checks of the content as a whole do not see the mark. -/
theorem wholeFindings_mark (hne : content ≠ []) :
    wholeFindings (byteOrderMark :: content) settings options =
      wholeFindings content settings options :=
  wholeFindings_congr (Text.endings_char isInLine_mark hne)

/-! ## The first line -/

theorem filter_reported {disabled : Bool} {found : Option Violation} {rank : Nat}
    (hrank : ∀ violation, found = some violation → violation.check.rank = rank)
    (p : Nat → Bool) :
    (reported disabled found).filter (fun violation => p violation.check.rank) =
      if p rank then reported disabled found else [] := by
  have hp : ∀ violation ∈ reported disabled found, p violation.check.rank = p rank :=
    fun violation h => by rw [rank_of_mem_reported hrank h]
  rw [List.filter_congr hp]
  cases p rank <;> simp

/-- Choosing among the violations of a line by check is choosing among the checks. -/
theorem filter_lineViolations (line : List Char) (settings : EditorSettings)
    (options : CheckOptions) (p : Nat → Bool) :
    (lineViolations line settings options).filter (fun violation => p violation.check.rank) =
      (if p 2 then reported options.disabled.trimTrailingWhitespace
        (Rule.trailingWhitespace line settings.trimTrailingWhitespace) else []) ++
      (if p 3 then reported options.disabled.indentation
        (Rule.indentation line settings.indentStyle settings.indentSize options) else []) ++
      (if p 4 then reported options.disabled.maxLineLength
        (Rule.maxLineLength line settings.maxLineLength settings.charset) else []) := by
  unfold lineViolations
  rw [List.filter_append, List.filter_append, filter_reported (fun _ => rank_trailingWhitespace),
    filter_reported (fun _ => rank_indentation), filter_reported (fun _ => rank_maxLineLength)]

/-- With the mark, the violations of a line are those of the rules other than that on
indentation. -/
theorem lineViolations_mark (hname : Rule.IsCounted name) (hcharset : settings.charset = some name)
    (hfirst : first.head? ≠ some byteOrderMark) :
    lineViolations (byteOrderMark :: first) settings options =
      (lineViolations first settings options).filter fun violation =>
        violation.check.rank != 3 := by
  have hmark : (byteOrderMark :: first).head? = some byteOrderMark := rfl
  have hindentation : Rule.indentation (byteOrderMark :: first) settings.indentStyle
      settings.indentSize options = none :=
    Rule.indentation_of_head? (by rw [hmark]; decide) (by rw [hmark]; decide) _ _ _
  have hnothing : reported options.disabled.indentation none = [] := by
    cases options.disabled.indentation <;> rfl
  rw [filter_lineViolations first settings options (· != 3), lineViolations, hindentation, hnothing,
    Rule.trailingWhitespace_mark, hcharset, Rule.maxLineLength_mark hname hfirst]
  rfl

/-- A violation of the rule on indentation is reported if its check is on and there is one. -/
theorem filter_lineViolations_eq_nil_iff (line : List Char) (settings : EditorSettings)
    (options : CheckOptions) :
    (lineViolations line settings options).filter (fun violation => violation.check.rank == 3) =
        [] ↔
      options.disabled.indentation = true ∨
        Rule.indentation line settings.indentStyle settings.indentSize options = none := by
  rw [filter_lineViolations line settings options (· == 3)]
  show [] ++ reported options.disabled.indentation _ ++ [] = [] ↔ _
  cases options.disabled.indentation <;>
    cases Rule.indentation line settings.indentStyle settings.indentSize options <;>
    simp [reported]

/-! ## Two runs -/

theorem exists_line_of_mem_linesFindings {skipping : Bool} {start : Nat} {lines : List (List Char)}
    (h : finding ∈ linesFindings settings options skipping start lines) :
    ∃ i, start ≤ i ∧ finding.line = some i := by
  induction lines generalizing skipping start with
  | nil => cases h
  | cons line lines ih =>
    rw [linesFindings_cons] at h
    rcases List.mem_append.1 h with h | h
    · split at h
      · cases h
      · exact ⟨start, Nat.le_refl start, line_of_mem_lineFindings h⟩
    · obtain ⟨i, hi, hline⟩ := ih h
      exact ⟨i, Nat.le_of_succ_le hi, hline⟩

theorem contentFindings_cons {rest : List (List Char)} (h : Text.lines content = first :: rest) :
    contentFindings content settings options =
      wholeFindings content settings options ++
        ((if Marker.line.occursIn first then []
          else (lineViolations first settings options).map (.ofViolation (some 0))) ++
        linesFindings settings options (Marker.start.occursIn first) 1 rest) := by
  rw [contentFindings, h, linesFindings_cons, lineFindings_eq]
  simp [isPassed, skippingAfter]

theorem isOnFirstIndent_ofViolation (violation : Violation) :
    (Finding.ofViolation (some 0) violation).isOnFirstIndent = (violation.check.rank == 3) := by
  unfold Finding.isOnFirstIndent Finding.ofViolation
  cases violation.check <;> rfl

theorem not_isOnFirstIndent (h : finding.line ≠ some 0) : finding.isOnFirstIndent = false := by
  simp [Finding.isOnFirstIndent, h]

theorem not_isOnFirstIndent_whole (h : finding ∈ wholeFindings content settings options) :
    finding.isOnFirstIndent = false := by
  apply not_isOnFirstIndent
  rw [line_of_mem_wholeFindings h]
  exact nofun

theorem not_isOnFirstIndent_behind {skipping : Bool} {rest : List (List Char)}
    (h : finding ∈ linesFindings settings options skipping 1 rest) :
    finding.isOnFirstIndent = false := by
  apply not_isOnFirstIndent
  obtain ⟨i, hi, hline⟩ := exists_line_of_mem_linesFindings h
  rw [hline]
  rintro ⟨⟩
  exact Nat.not_succ_le_zero 0 hi

/-- Choosing among findings of which none is about the indentation of the first line. -/
theorem filter_of_not_isOnFirstIndent {findings : List Finding}
    (h : ∀ finding ∈ findings, finding.isOnFirstIndent = false) (p : Bool → Bool) :
    findings.filter (fun finding => p finding.isOnFirstIndent) =
      if p false then findings else [] := by
  have hp : ∀ finding ∈ findings, p finding.isOnFirstIndent = p false :=
    fun finding hfinding => by rw [h finding hfinding]
  rw [List.filter_congr hp]
  cases p false <;> simp

/-- Choosing among all findings. Those on the indentation of the first line are the violations of
its indentation. -/
theorem filter_contentFindings {rest : List (List Char)}
    (h : Text.lines content = first :: rest) (p : Bool → Bool) :
    (contentFindings content settings options).filter (fun finding => p finding.isOnFirstIndent) =
      (if p false then wholeFindings content settings options else []) ++
        ((if Marker.line.occursIn first then []
          else ((lineViolations first settings options).filter fun violation =>
            p (violation.check.rank == 3)).map (.ofViolation (some 0))) ++
        if p false then linesFindings settings options (Marker.start.occursIn first) 1 rest
        else []) := by
  rw [contentFindings_cons h, List.filter_append, List.filter_append,
    filter_of_not_isOnFirstIndent (fun _ => not_isOnFirstIndent_whole),
    filter_of_not_isOnFirstIndent (fun _ => not_isOnFirstIndent_behind),
    apply_ite (List.filter _), List.filter_map]
  simp only [Function.comp_def, isOnFirstIndent_ofViolation]
  rfl

/-- The findings on the indentation of the first line. -/
theorem filter_isOnFirstIndent {rest : List (List Char)}
    (h : Text.lines content = first :: rest) :
    (contentFindings content settings options).filter (·.isOnFirstIndent) =
      if Marker.line.occursIn first then []
      else ((lineViolations first settings options).filter fun violation =>
        violation.check.rank == 3).map (.ofViolation (some 0)) := by
  refine (filter_contentFindings h id).trans ?_
  simp

/-- **A byte order mark takes away what is found on the indentation of the first line**, and
changes nothing else. -/
theorem contentFindings_mark (content : List Char) (settings : EditorSettings)
    (options : CheckOptions) (hne : content ≠ []) (hhead : content.head? ≠ some byteOrderMark)
    (hcharset : settings.charset = some name) (hname : Rule.IsCounted name) :
    contentFindings (byteOrderMark :: content) settings options =
      (contentFindings content settings options).filter (!·.isOnFirstIndent) ∧
    (contentFindings (byteOrderMark :: content) settings options =
        contentFindings content settings options ↔
      options.disabled.indentation = true ∨ ∀ line ∈ (Text.lines content).head?,
        Marker.line.occursIn line = true ∨
          Rule.indentation line settings.indentStyle settings.indentSize options = none) := by
  obtain ⟨first, rest, hlines, hmarked⟩ := lines_mark hne
  have hfirst : first.head? ≠ some byteOrderMark := fun h => hhead (head?_first hlines h)
  have hfilter : contentFindings (byteOrderMark :: content) settings options =
      (contentFindings content settings options).filter (!·.isOnFirstIndent) := by
    rw [filter_contentFindings hlines not, contentFindings_cons hmarked, occursIn_mark,
      occursIn_mark, wholeFindings_mark hne, lineViolations_mark hname hcharset hfirst]
    rfl
  refine ⟨hfilter, ?_⟩
  calc contentFindings (byteOrderMark :: content) settings options =
        contentFindings content settings options
    _ ↔ (contentFindings content settings options).filter (·.isOnFirstIndent) = [] := by
      -- What is left of the findings is all of them if nothing is taken away.
      rw [hfilter, List.filter_eq_self, List.filter_eq_nil_iff]
      simp
    _ ↔ Marker.line.occursIn first = true ∨
        (lineViolations first settings options).filter
          (fun violation => violation.check.rank == 3) = [] := by
      rw [filter_isOnFirstIndent hlines]
      cases Marker.line.occursIn first <;> simp
    _ ↔ _ := by
      rw [filter_lineViolations_eq_nil_iff, hlines, or_left_comm]
      simp

/-- Two tabs where spaces are wanted, on the first line and on the third: the first tab is not
found behind a mark, and the trailing space is. -/
theorem contentFindings_mark_tabs :
    let content := "\tx \n\n\ty\n".toList
    let settings : EditorSettings :=
      { indentStyle := some .space, trimTrailingWhitespace := true, charset := some "UTF-8" }
    content ≠ [] ∧ content.head? ≠ some byteOrderMark ∧ Rule.IsCounted "UTF-8" ∧
      (contentFindings content settings {}).map (fun finding => (finding.line, finding.check)) =
        [(some 0, .trimTrailingWhitespace), (some 0, .indentStyle), (some 2, .indentStyle)] ∧
      (contentFindings (byteOrderMark :: content) settings {}).map
          (fun finding => (finding.line, finding.check)) =
        [(some 0, .trimTrailingWhitespace), (some 2, .indentStyle)] ∧
      contentFindings (byteOrderMark :: content) settings {} =
        (contentFindings content settings {}).filter (!·.isOnFirstIndent) := by
  intro content settings
  have hne : content ≠ [] := by decide
  have hhead : content.head? ≠ some byteOrderMark := by decide
  have hname : Rule.IsCounted "UTF-8" := .inl (by decide)
  exact ⟨hne, hhead, hname, by decide, by decide,
    (contentFindings_mark content settings {} hne hhead rfl hname).1⟩

/-- A tab is found where spaces are wanted, but not behind a mark. -/
theorem contentFindings_mark_ne :
    let settings : EditorSettings := { indentStyle := some .space, charset := some "utf-8" }
    let content := "\tx\n".toList
    (contentFindings content settings {}).map (fun finding => (finding.line, finding.check)) =
        [(some 0, .indentStyle)] ∧
      contentFindings (byteOrderMark :: content) settings {} = [] := by
  decide

end Validation

end StyleCheck
