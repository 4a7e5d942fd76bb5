import StyleCheck.Regex.Syntax

/-!
# Reading the text of an expression, case by case

What the reader makes of each part of the syntax, given the frames that it is in.
-/

namespace StyleCheck.Regex

-- The lemmas below share the equations of the reader, which are made once here.
attribute [grind =] read?

variable {c : Char} {rest after : List Char} {frame parent next : Frame} {outer : List Frame}
  {set : Char → Bool}

theorem read?_end : read? ['$'] frame [] = some frame.regex := by
  rw [read?]

theorem read?_escaped (h : isEscapable c = true) :
    read? ('\\' :: c :: rest) frame outer = read? rest (frame.add (symbol c)) outer := by
  rw [read?, if_pos h]

/-- The characters that the reader knows by themselves. -/
def isKnown (c : Char) : Bool := ['$', '\\', '.', '[', '(', ')', '|'].contains c

theorem read?_unknown (h : isKnown c = false) :
    read? (c :: rest) frame outer =
      if isRepetition c then
        if startsRepetition rest then none
        else match frame.repeated? c with
          | some frame => read? rest frame outer
          | none => none
      else if isMeta c then none
      else read? rest (frame.add (symbol c)) outer := by
  have hne : c ≠ '$' ∧ c ≠ '\\' ∧ c ≠ '.' ∧ c ≠ '[' ∧ c ≠ '(' ∧ c ≠ ')' ∧ c ≠ '|' := by
    simpa [isKnown] using h
  rw [read?] <;> first | rfl | simp [hne]

theorem read?_plain (h : isMeta c = false) :
    read? (c :: rest) frame outer = read? rest (frame.add (symbol c)) outer := by
  have hknown : isKnown c = false := by
    simp only [isMeta, isKnown, List.contains_eq_mem, decide_eq_false_iff_not] at h ⊢
    simp_all
  have hrepetition : isRepetition c = false := by
    simp only [isMeta, isRepetition, List.contains_eq_mem, decide_eq_false_iff_not] at h ⊢
    simp_all
  rw [read?_unknown hknown, hrepetition, h]
  rfl

/-- However a character is written, it is read as itself. -/
theorem read?_escape (c : Char) :
    read? (escape c ++ rest) frame outer = read? rest (frame.add (symbol c)) outer := by
  unfold escape
  cases h : isMeta c with
  | true => exact read?_escaped (by simp [isEscapable, h])
  | false => exact read?_plain h

theorem read?_dot :
    read? ('.' :: rest) frame outer = read? rest (frame.add (.one notLineFeed)) outer := by
  rw [read?]

theorem read?_set (h : set? rest = some (set, after)) :
    read? ('[' :: rest) frame outer = read? after (frame.add (.one set)) outer := by
  rw [read?]
  split
  next found =>
    rw [h] at found
    cases found
    rfl
  next found =>
    rw [h] at found
    cases found

theorem read?_set_none (h : set? rest = none) : read? ('[' :: rest) frame outer = none := by
  rw [read?]
  split
  next found =>
    rw [h] at found
    cases found
  · rfl

theorem read?_open :
    read? ('(' :: '?' :: ':' :: rest) frame outer = read? rest {} (frame :: outer) := by
  rw [read?]

theorem read?_capture (h : rest.head? ≠ some '?') :
    read? ('(' :: rest) frame outer = read? rest { captured := true } (frame :: outer) := by
  rw [read?]
  rintro more rfl
  exact h rfl

theorem read?_close :
    read? (')' :: rest) frame (parent :: outer) = read? rest (parent.add frame.regex) outer := by
  rw [read?]

theorem read?_bar :
    read? ('|' :: rest) frame (parent :: outer) = read? rest frame.next (parent :: outer) := by
  rw [read?]

theorem read?_repetition (hc : isRepetition c = true) (hrest : startsRepetition rest = false)
    (hnext : frame.repeated? c = some next) :
    read? (c :: rest) frame outer = read? rest next outer := by
  have hknown : isKnown c = false := by
    simp only [isRepetition, Bool.or_eq_true, beq_iff_eq] at hc
    rcases hc with (rfl | rfl) | rfl <;> rfl
  rw [read?_unknown hknown, if_pos hc, hrest, if_neg Bool.false_ne_true, hnext]

theorem setItems?_plain (hclose : c ≠ ']') (hhyphen : c ≠ '-')
    (hmeta : c ∉ ['\\', '[', '&', '~']) :
    setItems? (c :: rest) =
      (setItems? rest).map fun (items, after) => (.symbol c :: items, after) := by
  have hescape : c ≠ '\\' := fun heq => hmeta (heq ▸ List.mem_cons_self)
  rw [setItems?]
  · rw [if_neg]
    simpa using hmeta
  all_goals simp [hclose, hhyphen, hescape]

/-- What is listed without the mark of a negated set is read as a set that is not negated. -/
theorem set?_of_head? (h : rest.head? ≠ some '^') : set? rest = listedSet? false rest := by
  unfold set?
  split
  · exact absurd rfl h
  · rfl

end StyleCheck.Regex
