import StyleCheck.Proofs.Text.Lines

/-!
# Lines partition a text

**Theorem (`lines_partition`).** A text is cut into lines and their ends in one way only. It has a
line for each end and, if it does not end in one, another line that is not empty, and where a text
goes on behind the end of a line, the lines go on with those of the other text.

The cut is the only one because segments are found again in the text that they make. So the law
for two texts needs no induction along them: the segments of both, one after the other, are in the
form in which a text has them (`Segmented.append`), unless the joint would make a pair of a carriage
return and a line feed.
-/

namespace StyleCheck.Text

variable {c : Char} {text more rest line : List Char} {list others : List Segment}

/-! ## The end of the last line -/

/-- The last line of the text is ended. -/
def EndsLine (text : List Char) : Prop := text.getLast? = some '\n' ∨ text.getLast? = some '\r'

theorem endsLine_cons_iff (h : rest ≠ []) : EndsLine (c :: rest) ↔ EndsLine rest := by
  rw [EndsLine, EndsLine, List.getLast?_cons_of_ne_nil h]

/-- A text behind the end of a line is empty, or its own last line counts. -/
theorem endsLine_cons_of_end (hc : c = '\n' ∨ c = '\r') :
    EndsLine (c :: rest) ↔ rest = [] ∨ EndsLine rest := by
  by_cases hrest : rest = []
  · subst hrest
    exact iff_of_true (by simpa [EndsLine] using hc) (.inl rfl)
  · rw [endsLine_cons_iff hrest, or_iff_right hrest]

theorem none_not_mem_endings_iff : none ∉ endings text ↔ text = [] ∨ EndsLine text := by
  induction text using lineInduction with
  | nil => simp
  | lf rest ih => simp [ih, endsLine_cons_of_end]
  | crlf rest ih =>
    rw [endsLine_cons_iff (List.cons_ne_nil _ _), endsLine_cons_of_end (.inl rfl)]
    simp [ih]
  | cr rest hrest ih =>
    rw [endsLine_cons_of_end (.inr rfl), endings_cr hrest]
    simp [ih]
  | one c hc => simp [endings_one hc, EndsLine, hc]
  | char c rest hc hrest ih =>
    rw [endings_char hc hrest, endsLine_cons_iff hrest, ih]
    simp [hrest]

/-! ## Two texts -/

theorem joined_append (list others : List Segment) :
    joined (list ++ others) = joined list ++ joined others := List.flatMap_append

/-- Ended segments go in front of any others, unless the joint makes a pair of a carriage return and
a line feed. -/
theorem Segmented.append (h : Segmented list) (h' : Segmented others)
    (hended : ∀ segment ∈ list, segment.2 ≠ none)
    (hjoint : (joined list).getLast? = some '\r' → (joined others).head? ≠ some '\n') :
    Segmented (list ++ others) := by
  induction h with
  | nil => exact h'
  | last _ _ => exact absurd rfl (hended _ List.mem_cons_self)
  | @cons line ending rest hline hnext hrest ih =>
    have hlast : joined ((line, some ending) :: rest) =
        (line ++ ending.sequence) ++ joined rest := joined_cons _ _
    refine .cons hline (fun hending => ?_) (ih ?_ fun hreturn => hjoint ?_)
    · show (joined (rest ++ others)).head? ≠ some '\n'
      rw [joined_append]
      by_cases hempty : joined rest = []
      · -- The segment is the last one before the joint.
        rw [hempty, List.nil_append]
        refine hjoint ?_
        rw [hlast, hempty, hending]
        simp [EndOfLine.sequence]
      · obtain ⟨c, behind, hrest⟩ := List.exists_cons_of_ne_nil hempty
        rw [hrest] at hnext ⊢
        exact hnext hending
    · exact fun segment hmem => hended segment (List.mem_cons_of_mem _ hmem)
    · rw [hlast, List.getLast?_append, hreturn]
      rfl

theorem segments_append_of_endsLine (h : EndsLine text)
    (hjoint : text.getLast? = some '\r' → more.head? ≠ some '\n') :
    segments (text ++ more) = segments text ++ segments more := by
  have hended : ∀ segment ∈ segments text, segment.2 ≠ none := by
    intro segment hmem hnone
    exact none_not_mem_endings_iff.2 (.inr h) (List.mem_map.2 ⟨segment, hmem, hnone⟩)
  have hsegmented : Segmented (segments text ++ segments more) := by
    refine (segmented_segments text).append (segmented_segments more) hended ?_
    rwa [joined_segments, joined_segments]
  rw [← segments_joined hsegmented, joined_append, joined_segments, joined_segments]

/-! ## The partition -/

theorem segmented_iff_eq_segments : Segmented list ∧ joined list = text ↔ list = segments text := by
  constructor
  · rintro ⟨hsegmented, rfl⟩
    exact (segments_joined hsegmented).symm
  · rintro rfl
    exact ⟨segmented_segments text, joined_segments text⟩

theorem Segmented.isLine (h : Segmented list) : ∀ segment ∈ list, IsLine segment.1 := by
  induction h with
  | nil => simp
  | last hline _ => simpa using hline
  | cons hline _ _ ih => exact List.forall_mem_cons.2 ⟨hline, ih⟩

theorem isLine_of_mem_lines (h : line ∈ lines text) : IsLine line := by
  obtain ⟨segment, hmem, rfl⟩ := List.mem_map.1 h
  exact (segmented_segments text).isLine segment hmem

theorem lines_eq_nil_iff : lines text = [] ↔ text = [] := by
  rw [← endings_eq_nil_iff, lines, endings, List.map_eq_nil_iff, List.map_eq_nil_iff]

/-- **A text is its lines with their ends between them**, cut in the only way. -/
theorem lines_partition (text : List Char) :
    (∃ ends, ends.length = (lines text).length ∧ Segmented ((lines text).zip ends) ∧
      joined ((lines text).zip ends) = text ∧
      (none ∉ ends ↔ text = [] ∨ EndsLine text)) ∧
    (∀ list, Segmented list → joined list = text → list.map Prod.fst = lines text) ∧
    (∀ line ∈ lines text, '\n' ∉ line ∧ '\r' ∉ line) ∧
    (lines text = [] ↔ text = []) ∧
    ∀ more, EndsLine text → (text.getLast? = some '\r' → more.head? ≠ some '\n') →
      lines (text ++ more) = lines text ++ lines more := by
  have hzip : (lines text).zip (endings text) = segments text := by
    rw [lines, endings, ← List.unzip_fst, ← List.unzip_snd, List.zip_unzip]
  refine ⟨⟨endings text, ?_, ?_, ?_, none_not_mem_endings_iff⟩, ?_, ?_, lines_eq_nil_iff, ?_⟩
  · rw [endings, lines, List.length_map, List.length_map]
  · rw [hzip]
    exact segmented_segments text
  · rw [hzip]
    exact joined_segments text
  · intro list hsegmented hjoined
    rw [segmented_iff_eq_segments.1 ⟨hsegmented, hjoined⟩]
    rfl
  · exact fun line hmem => isLine_of_mem_lines hmem
  · intro more hends hjoint
    rw [lines, segments_append_of_endsLine hends hjoint, List.map_append]
    rfl

end StyleCheck.Text
