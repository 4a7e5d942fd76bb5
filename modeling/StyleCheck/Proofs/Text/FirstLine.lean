import StyleCheck.Proofs.Text.Lines
import StyleCheck.Proofs.Text.Split

/-!
# Words on the first line

The first line of a text is what stands before the first end of a line (`head?_lines`), so a word is
on it if the word stands in the text with no end of a line before it (`onFirstLine_iff`).
-/

namespace StyleCheck.Text

variable {text word front back : List Char}

/-- A character that does not end a line. -/
def isInLine (c : Char) : Bool := c != '\n' && c != '\r'

theorem isInLine_iff {c : Char} : isInLine c = true ↔ c ≠ '\n' ∧ c ≠ '\r' := by
  simp [isInLine]

theorem isLine_iff : IsLine text ↔ ∀ c ∈ text, isInLine c = true := by
  induction text with
  | nil => simp [isLine_nil]
  | cons c text ih => rw [isLine_cons, List.forall_mem_cons, isInLine_iff, ih, and_assoc]

theorem isLine_append : IsLine (front ++ back) ↔ IsLine front ∧ IsLine back := by
  simp only [isLine_iff, List.forall_mem_append]

theorem head?_lines (hne : text ≠ []) :
    (lines text).head? = some (text.takeWhile isInLine) := by
  induction text using lineInduction with
  | nil => exact absurd rfl hne
  | lf rest => rfl
  | crlf rest => rfl
  | cr rest hrest =>
    rw [lines, segments_cr hrest]
    rfl
  | one c hc =>
    rw [lines, segments_push_nil hc rfl]
    simp [isInLine_iff.2 hc]
  | char c rest hc hrest ih =>
    have ih := ih hrest
    rw [lines] at ih ⊢
    cases hsegments : segments rest with
    | nil =>
      rw [hsegments] at ih
      cases ih
    | cons segment more =>
      rw [hsegments] at ih
      have hfirst : segment.1 = rest.takeWhile isInLine := Option.some.inj ih
      rw [segments_push_cons hc hsegments]
      simp [hfirst, isInLine_iff.2 hc]

/-- The word is on the first line of the text. -/
def OnFirstLine (word text : List Char) : Prop :=
  ∃ line, (lines text).head? = some line ∧ hasWord word line = true

instance : Decidable (OnFirstLine word text) :=
  decidable_of_iff ((lines text).head?.any (hasWord word) = true) (Option.any_eq_true _ _)

theorem onFirstLine_iff (hword : IsLine word) (hne : word ≠ []) :
    OnFirstLine word text ↔ ∃ before after, text = before ++ (word ++ after) ∧ IsLine before := by
  by_cases htext : text = []
  · rw [htext]
    refine iff_of_false ?_ ?_
    · rintro ⟨line, hline, -⟩
      cases hline
    · rintro ⟨before, after, heq, -⟩
      simp [hne] at heq
  · simp only [OnFirstLine, head?_lines htext, Option.some.injEq, exists_eq_left',
      hasWord_takeWhile_iff (isLine_iff.1 hword), isLine_iff]

end StyleCheck.Text
