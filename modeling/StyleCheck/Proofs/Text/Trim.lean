import StyleCheck.Text.Basic
import Mathlib.Data.List.TakeWhile

/-!
# Laws of trimming

Blanks on either side of a text do not change what trimming leaves of it (`trim_padded`), and what
it leaves starts with no blank (`isBlank_of_trim`).
-/

namespace StyleCheck.Text

variable {text rest front back : List Char} {c : Char}

theorem trimEnd_append (text : List Char) (hback : ∀ c ∈ back, isBlank c = true) :
    trimEnd (text ++ back) = trimEnd text := by
  have hreverse : ∀ c ∈ back.reverse, isBlank c = true := by
    intro c hc
    exact hback c (List.mem_reverse.1 hc)
  unfold trimEnd
  rw [List.reverse_append, List.dropWhile_append_of_pos hreverse]

theorem trimEnd_cons (hc : isBlank c = false) : trimEnd (c :: rest) = c :: trimEnd rest := by
  have hstop : [c].dropWhile isBlank = [c] := by simp [hc]
  unfold trimEnd
  rw [List.reverse_cons, List.dropWhile_append, hstop]
  by_cases h : rest.reverse.dropWhile isBlank = []
  · simp [h]
  · simp [h]

theorem trim_append (text : List Char) (hback : ∀ c ∈ back, isBlank c = true) :
    trim (text ++ back) = trim text := by
  have hnone : back.dropWhile isBlank = [] := List.dropWhile_eq_nil_iff.2 hback
  unfold trim trimStart
  rw [List.dropWhile_append, hnone]
  by_cases h : text.dropWhile isBlank = []
  · simp [h]
  · simp only [List.isEmpty_iff, if_neg h]
    exact trimEnd_append _ hback

/-- **Blanks around a text are trimmed away.** -/
theorem trim_padded (text : List Char) (hfront : ∀ c ∈ front, isBlank c = true)
    (hback : ∀ c ∈ back, isBlank c = true) : trim (front ++ (text ++ back)) = trim text := by
  calc trim (front ++ (text ++ back))
    _ = trim (text ++ back) := by
      unfold trim trimStart
      rw [List.dropWhile_append_of_pos hfront]
    _ = trim text := trim_append text hback

theorem trim_cons (hc : isBlank c = false) : trim (c :: rest) = c :: trimEnd rest := by
  have hstart : trimStart (c :: rest) = c :: rest := by simp [trimStart, hc]
  unfold trim
  rw [hstart, trimEnd_cons hc]

theorem isBlank_of_trim (h : trim text = c :: rest) : isBlank c = false := by
  unfold trim trimStart at h
  cases hstart : text.dropWhile isBlank with
  | nil =>
    rw [hstart] at h
    cases h
  | cons first more =>
    have hfirst : isBlank first = false := by
      have hnot := List.head_dropWhile_not isBlank (hstart ▸ List.cons_ne_nil first more)
      simpa [hstart] using hnot
    rw [hstart, trimEnd_cons hfirst] at h
    rw [← (List.cons.inj h).1]
    exact hfirst

end StyleCheck.Text
