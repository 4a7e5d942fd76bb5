import StyleCheck.Proofs.Validation.Content
import StyleCheck.Proofs.Validation.Endings

/-!
# The text of exempt lines

**Theorem (`contentFindings_replaceLine`).** Nothing that is found depends on the text of a line
inside of a block, as long as the text has no end marker, or on the text of a line with the line
marker, as long as its markers stay.

Two runs are compared, one before and one after the line is exchanged. The checks of the content as
a whole see the ends of lines only, which stay (`wholeFindings_replaceLine`). The loop over the
lines is in the same state before the line, since the lines before it are the same; it passes over
the line in both runs and is in the same state behind it (`linesFindings_set`).
-/

namespace StyleCheck.Validation

variable {settings : EditorSettings} {options : CheckOptions} {lines : List (List Char)}
  {content old new : List Char} {i : Nat}

/-- Two lines that the loop passes over, and that leave it in the same state. -/
structure Alike (skipping : Bool) (old new : List Char) : Prop where
  passed_old : isPassed skipping old = true
  passed_new : isPassed skipping new = true
  after : skippingAfter skipping new = skippingAfter skipping old

/-- A line is exchanged for one that is alike to the loop. -/
theorem linesFindings_set {skipping : Bool} (start : Nat) (hold : lines[i]? = some old)
    (h : Alike ((lines.take i).foldl skippingAfter skipping) old new) :
    linesFindings settings options skipping start (lines.set i new) =
      linesFindings settings options skipping start lines := by
  induction lines generalizing skipping start i with
  | nil => rfl
  | cons line lines ih =>
    cases i with
    | zero =>
      cases hold
      have h : Alike skipping old new := h
      rw [List.set_cons_zero, linesFindings_cons, linesFindings_cons, h.after,
        if_pos h.passed_new, if_pos h.passed_old]
    | succ i =>
      rw [List.set_cons_succ, linesFindings_cons, linesFindings_cons, ih (start + 1) hold h]

/-- A line inside of a block, and another text without an end marker. -/
theorem alike_of_isInside (hold : lines[i]? = some old) (h : IsInside lines i)
    (hnew : Marker.stop.occursIn new = false) : Alike (skippingAt lines i) old new := by
  obtain ⟨hskipping, hstop⟩ := (isInside_iff hold).1 h
  rw [hskipping]
  constructor <;> simp [isPassed, skippingAfter, hstop, hnew]

/-- A line with the line marker, and another one with the same markers. -/
theorem alike_of_onLine (hold : lines[i]? = some old) (h : OnLine .line lines i)
    (hline : Marker.line.occursIn new = true)
    (hstart : Marker.start.occursIn new = true ↔ OnLine .start lines i)
    (hstop : Marker.stop.occursIn new = true ↔ OnLine .stop lines i) :
    Alike (skippingAt lines i) old new := by
  rw [onLine_iff hold] at h
  rw [onLine_iff hold, ← Bool.eq_iff_iff] at hstart hstop
  constructor
  · rw [isPassed, h, Bool.true_or]
  · rw [isPassed, hline, Bool.true_or]
  · rw [skippingAfter, skippingAfter, hstart, hstop]

/-- The checks of the content as a whole see the ends of its lines only. -/
theorem wholeFindings_congr {other : List Char}
    (h : Text.endings other = Text.endings content) :
    wholeFindings other settings options = wholeFindings content settings options := by
  have hempty : other = [] ↔ content = [] := by
    rw [← Text.endings_eq_nil_iff, h, Text.endings_eq_nil_iff]
  rw [wholeFindings_eq, wholeFindings_eq]
  simp only [hempty, wholeViolations, lineEnding_congr h, finalNewline_congr h]

/-- **Nothing that is found depends on the text of an exempt line**, as long as the markers stay
that decide what is exempt. -/
theorem contentFindings_replaceLine (content : List Char) (settings : EditorSettings)
    (options : CheckOptions) (hline : Text.IsLine new) (hne : new ≠ [])
    (h : (IsInside (Text.lines content) i ∧ Marker.stop.occursIn new = false) ∨
      (OnLine .line (Text.lines content) i ∧ Marker.line.occursIn new = true ∧
        (Marker.start.occursIn new = true ↔ OnLine .start (Text.lines content) i) ∧
        (Marker.stop.occursIn new = true ↔ OnLine .stop (Text.lines content) i))) :
    contentFindings (Text.replaceLine content i new) settings options =
      contentFindings content settings options := by
  have hexempt : IsExempt (Text.lines content) i := by
    rcases h with ⟨hinside, -⟩ | ⟨honLine, -⟩
    · exact .inr hinside
    · exact .inl honLine
  obtain ⟨old, hold⟩ : ∃ old, (Text.lines content)[i]? = some old :=
    ⟨_, List.getElem?_eq_getElem hexempt.lt⟩
  -- The loop goes on from the new line as it does from the old one.
  have halike : Alike (skippingAt (Text.lines content) i) old new := by
    rcases h with ⟨hinside, hstop⟩ | ⟨honLine, hmarker, hstart, hstop⟩
    · exact alike_of_isInside hold hinside hstop
    · exact alike_of_onLine hold honLine hmarker hstart hstop
  rw [contentFindings, contentFindings,
    wholeFindings_congr (Text.endings_replaceLine content i hline hne),
    Text.lines_replaceLine content i hline hne, linesFindings_set 0 hold halike]

/-- An empty line inside of a block, between a line feed and a carriage return, gets a text. -/
theorem contentFindings_replaceLine_emptyLine :
    let content := "ec-guard:disable-start\n\rec-guard:disable-end ".toList
    let new := "\tec-guard:disable-start ".toList
    let settings : EditorSettings :=
      { trimTrailingWhitespace := true, insertFinalNewline := some true, endOfLine := some .lf }
    Text.IsLine new ∧ new ≠ [] ∧ IsInside (Text.lines content) 1 ∧
      Marker.stop.occursIn new = false ∧
      Text.replaceLine content 1 new =
        "ec-guard:disable-start\n\tec-guard:disable-start \rec-guard:disable-end ".toList ∧
      (contentFindings content settings {}).map (·.line) = [none, none, some 2] ∧
      contentFindings (Text.replaceLine content 1 new) settings {} =
        contentFindings content settings {} := by
  intro content new settings
  have hline : Text.IsLine new := by
    unfold Text.IsLine
    decide
  have hne : new ≠ [] := by decide
  have hstop : Marker.stop.occursIn new = false := by decide
  have hold : (Text.lines content)[1]? = some [] := by decide
  have hinside : IsInside (Text.lines content) 1 := (isInside_iff hold).2 (by decide)
  exact ⟨hline, hne, hinside, hstop, by decide, by decide,
    contentFindings_replaceLine content settings {} hline hne (.inl ⟨hinside, hstop⟩)⟩

end StyleCheck.Validation
