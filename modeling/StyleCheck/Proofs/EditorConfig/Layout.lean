import StyleCheck.Proofs.EditorConfig.Lines
import StyleCheck.Text.Basic

/-!
# Layout does not matter

**Theorem (`parse_layout`).** A file says the same when its line feeds become pairs of a carriage
return and a line feed, when a byte order mark is put in front of it, and when spaces and tabs are
put around its lines. Blank lines and comments between its lines change no more than the number of a
malformed line, which grows by the number of lines that are put above it.

Reading goes through the lines of the text and sees them without the blanks around them. So the
first three changes give lines that are trimmed alike (`parse_congr`), and for the last one
the lines are followed one by one (`addLines_interleave`). What remains is that the changed text has
the changed lines (`linesOf_intercalate`): a byte order mark counts at the start of a text only, so
no change may bring one there.
-/

namespace StyleCheck.EditorConfig

/-- The byte order mark. -/
def mark : Char := '\uFEFF'

/-- The line with spaces and tabs at its start and at its end, before or after the carriage return
that may end it. -/
def Padded (line padded : List Char) : Prop :=
  ∃ front body back ending, line = body ++ ending ∧ padded = front ++ (body ++ (back ++ ending)) ∧
    (∀ c ∈ front ++ back, c = ' ' ∨ c = '\t') ∧ (ending = [] ∨ ending = ['\r'])

/-- The lines with further lines put in between: the first list of `gaps` before the first line, the
second one before the second line, and so on; what is left of `gaps` comes after the last line. -/
def interleave : (gaps : List (List (List Char))) → (lines : List (List Char)) → List (List Char)
  | [], lines => lines
  | gap :: gaps, [] => gap ++ interleave gaps []
  | gap :: gaps, line :: lines => gap ++ line :: interleave gaps lines

/-- How many of these further lines come above the line with the given number, counted from one. -/
def putAbove (gaps : List (List (List Char))) (number : Nat) : Nat :=
  (gaps.take number).flatten.length

/-- Lines of which the first does not start with a byte order mark. -/
def Unmarked (lines : List (List Char)) : Prop := ∀ line ∈ lines.head?, line.head? ≠ some mark

variable {text : List Char} {line padded : List Char} {lines others : List (List Char)}
  {gaps : List (List (List Char))} {c : Char}

/-! ## Padded lines -/

theorem Padded.trim_eq (h : Padded line padded) : Text.trim line = Text.trim padded := by
  obtain ⟨front, body, back, ending, rfl, rfl, hpad, hending⟩ := h
  have hblank : ∀ c ∈ front ++ back, Text.isBlank c = true := by
    intro c hc
    rcases hpad c hc with rfl | rfl <;> rfl
  have hend : ∀ c ∈ ending, Text.isBlank c = true := by
    intro c hc
    rcases hending with rfl | rfl
    · cases hc
    · rw [List.mem_singleton.1 hc]
      rfl
  obtain ⟨hfront, hback⟩ := List.forall_mem_append.1 hblank
  rw [Text.trim_append body hend,
    Text.trim_padded body hfront (List.forall_mem_append.2 ⟨hback, hend⟩)]

theorem Padded.not_mem_lf (h : Padded line padded) (hline : '\n' ∉ line) : '\n' ∉ padded := by
  obtain ⟨front, body, back, ending, rfl, rfl, hpad, -⟩ := h
  intro hmem
  simp only [List.mem_append] at hmem hline hpad
  rcases hmem with hmem | hmem | hmem | hmem
  · exact absurd (hpad _ (.inl hmem)) (by decide)
  · exact hline (.inl hmem)
  · exact absurd (hpad _ (.inr hmem)) (by decide)
  · exact hline (.inr hmem)

/-- A padded line that starts with a byte order mark is padded at its end only. -/
theorem Padded.head?_eq_mark (h : Padded line padded) (hmark : padded.head? = some mark) :
    line.head? = some mark := by
  obtain ⟨front, body, back, ending, rfl, rfl, hpad, -⟩ := h
  cases front with
  | cons c front =>
    cases hmark
    exact absurd (hpad mark (by simp)) (by decide)
  | nil =>
    cases body with
    | cons c body => exact hmark
    | nil =>
      cases back with
      | cons c back =>
        cases hmark
        exact absurd (hpad mark (by simp)) (by decide)
      | nil => exact hmark

theorem unmarked_padded (h : List.Forall₂ Padded lines others) (hlines : Unmarked lines) :
    Unmarked others := by
  cases h with
  | nil => exact hlines
  | cons hline _ =>
    intro padded hpadded hmark
    cases hpadded
    exact hlines _ rfl (hline.head?_eq_mark hmark)

theorem not_mem_lf_padded (h : List.Forall₂ Padded lines others)
    (hlines : ∀ line ∈ lines, '\n' ∉ line) : ∀ line ∈ others, '\n' ∉ line := by
  induction h with
  | nil => exact hlines
  | cons hline _ ih =>
    obtain ⟨hfirst, hrest⟩ := List.forall_mem_cons.1 hlines
    exact List.forall_mem_cons.2 ⟨hline.not_mem_lf hfirst, ih hrest⟩

/-! ## Lines in between -/

theorem mem_interleave (h : line ∈ interleave gaps lines) :
    line ∈ lines ∨ ∃ gap ∈ gaps, line ∈ gap := by
  fun_induction interleave gaps lines with
  | case1 lines => exact .inl h
  | case2 gap gaps ih =>
    rcases List.mem_append.1 h with h | h
    · exact .inr ⟨gap, by simp, h⟩
    · rcases ih h with h | ⟨other, hother, h⟩
      · exact .inl h
      · exact .inr ⟨other, by simp [hother], h⟩
  | case3 gap gaps first lines ih =>
    rcases List.mem_append.1 h with h | h
    · exact .inr ⟨gap, by simp, h⟩
    rcases List.mem_cons.1 h with rfl | h
    · exact .inl (by simp)
    rcases ih h with h | ⟨other, hother, h⟩
    · exact .inl (by simp [h])
    · exact .inr ⟨other, by simp [hother], h⟩

theorem putAbove_cons (gap : List (List Char)) (gaps : List (List (List Char))) (number : Nat) :
    putAbove (gap :: gaps) (number + 1) = gap.length + putAbove gaps number := by
  unfold putAbove
  rw [List.take_succ_cons, List.flatten_cons, List.length_append]

theorem interleave_ne_nil (h : lines ≠ []) : interleave gaps lines ≠ [] := by
  fun_cases interleave gaps lines with
  | case1 => exact h
  | case2 => exact absurd rfl h
  | case3 => simp

/-- A line that says nothing does not start with a byte order mark, which is no blank. -/
theorem Says.head?_ne_mark (h : Says line .nothing) : line.head? ≠ some mark := by
  intro hmark
  obtain ⟨rest, rfl⟩ := List.head?_eq_some_iff.1 hmark
  have htrim : Text.trim (mark :: rest) = mark :: Text.trimEnd rest := Text.trim_cons (by decide)
  cases h with
  | blank hblank =>
    rw [htrim] at hblank
    cases hblank
  | comment hcomment hc =>
    rw [htrim] at hcomment
    cases hcomment
    exact absurd hc (by decide)

theorem unmarked_append {gap : List (List Char)} (hgap : ∀ line ∈ gap, Says line .nothing)
    (h : Unmarked lines) : Unmarked (gap ++ lines) := by
  cases gap with
  | nil => exact h
  | cons first gap =>
    intro line hline
    cases hline
    exact (hgap first List.mem_cons_self).head?_ne_mark

theorem unmarked_interleave (hgaps : ∀ gap ∈ gaps, ∀ line ∈ gap, Says line .nothing)
    (h : Unmarked lines) : Unmarked (interleave gaps lines) := by
  fun_induction interleave gaps lines with
  | case1 => exact h
  | case2 gap gaps ih =>
    obtain ⟨hgap, hgaps⟩ := List.forall_mem_cons.1 hgaps
    exact unmarked_append hgap (ih hgaps h)
  | case3 gap gaps first lines _ =>
    exact unmarked_append (hgaps gap List.mem_cons_self) h

namespace Contents

variable {contents : Contents} {number : Nat}

/-! ## The lines of a changed text -/

theorem withoutMark_of_head? (h : text.head? ≠ some mark) : withoutMark text = text := by
  unfold withoutMark
  split
  · exact absurd rfl h
  · rfl

theorem linesOf_of_head? (h : text.head? ≠ some mark) : linesOf text = text.splitOn '\n' := by
  rw [linesOf, withoutMark_of_head? h]

theorem linesOf_intercalate (hlf : ∀ line ∈ lines, '\n' ∉ line) (hne : lines ≠ [])
    (h : Unmarked lines) : linesOf (['\n'].intercalate lines) = lines := by
  obtain ⟨line, more, rfl⟩ := List.exists_cons_of_ne_nil hne
  have hhead : (['\n'].intercalate (line :: more)).head? ≠ some mark := by
    rw [Ne, Text.head?_intercalate line more (by decide)]
    exact h line rfl
  rw [linesOf_of_head? hhead, List.splitOn_intercalate '\n' hlf hne]

theorem unmarked_splitOn (h : text.head? ≠ some mark) : Unmarked (text.splitOn '\n') := by
  intro line hline hmark
  obtain ⟨more, hmore⟩ := List.head?_eq_some_iff.1 hline
  have htext : ['\n'].intercalate (line :: more) = text := by
    rw [← hmore]
    exact List.intercalate_splitOn '\n'
  rw [← htext] at h
  exact h ((Text.head?_intercalate line more (by decide)).2 hmark)

theorem head?_replaceWith (h : text.head? ≠ some mark) :
    (Text.replaceWith '\n' ['\r', '\n'] text).head? ≠ some mark := by
  cases text with
  | nil => exact h
  | cons c text =>
    by_cases hc : c = '\n'
    · subst hc
      intro hmark
      cases hmark
    · simpa [Text.replaceWith, hc] using h

/-! ## Reading the changed lines -/

theorem parse_congr {other : List Char} (h : List.Forall₂ (fun line other =>
    Text.trim line = Text.trim other) (linesOf text) (linesOf other)) :
    parse text = parse other := by
  rw [parse_eq, parse_eq]
  exact addLines_congr h

/-- The error when more lines stand above the malformed one. -/
def LineError.lowered (error : LineError) (count : Nat) : LineError :=
  { error with line := error.line + count }

/-- The numbers of the lines only matter for the number in the error. -/
theorem addLines_eq_lowered (contents : Contents) (number : Nat) (lines : List (List Char)) :
    addLines contents number lines =
      (addLines contents 0 lines).mapError (·.lowered number) := by
  induction lines generalizing contents number with
  | nil => rfl
  | cons line lines ih =>
    rcases says_or_isMalformed line with ⟨said, hsaid⟩ | ⟨fault, hfault⟩
    · rw [addLines_cons_ok hsaid, addLines_cons_ok hsaid, ih _ (number + 1), ih _ (0 + 1)]
      cases addLines (contents.add said) 0 lines with
      | error error => simp [Except.mapError, LineError.lowered, Nat.add_comm, Nat.add_left_comm]
      | ok result => rfl
    · rw [addLines_cons_error hfault, addLines_cons_error hfault]
      simp [Except.mapError, LineError.lowered]

/-- Lines that say nothing are counted, and no more. -/
theorem addLines_append {gap : List (List Char)} (hgap : ∀ line ∈ gap, Says line .nothing) :
    addLines contents number (gap ++ lines) = addLines contents (number + gap.length) lines := by
  induction gap generalizing number with
  | nil => rfl
  | cons line gap ih =>
    obtain ⟨hline, hgap⟩ := List.forall_mem_cons.1 hgap
    calc addLines contents number (line :: (gap ++ lines))
      _ = addLines contents (number + 1) (gap ++ lines) := addLines_cons_ok hline
      _ = addLines contents (number + 1 + gap.length) lines := ih hgap
      _ = addLines contents (number + (line :: gap).length) lines := by
        rw [List.length_cons, Nat.add_assoc, Nat.add_comm 1]

/-- Lines that say nothing, put between others, lower a malformed line by the number of those above
it. -/
theorem addLines_interleave (hgaps : ∀ gap ∈ gaps, ∀ line ∈ gap, Says line .nothing) :
    addLines contents 0 (interleave gaps lines) =
      (addLines contents 0 lines).mapError fun error =>
        error.lowered (putAbove gaps (error.line + 1)) := by
  fun_induction interleave gaps lines generalizing contents with
  | case1 lines => cases addLines contents 0 lines <;> rfl
  | case2 gap gaps ih =>
    obtain ⟨hgap, hgaps⟩ := List.forall_mem_cons.1 hgaps
    rw [addLines_append hgap, addLines_eq_lowered, ih hgaps]
    rfl
  | case3 gap gaps line lines ih =>
    obtain ⟨hgap, hgaps⟩ := List.forall_mem_cons.1 hgaps
    rw [addLines_append hgap]
    rcases says_or_isMalformed line with ⟨said, hsaid⟩ | ⟨fault, hfault⟩
    · -- The line is taken, and an error behind it is lowered by one line more.
      rw [addLines_cons_ok hsaid, addLines_cons_ok hsaid, Nat.zero_add, Nat.zero_add,
        addLines_eq_lowered _ (gap.length + 1), addLines_eq_lowered _ 1, ih hgaps]
      cases addLines (contents.add said) 0 lines with
      | error error =>
        simp only [Except.mapError, LineError.lowered, putAbove_cons, Except.error.injEq,
          LineError.mk.injEq, and_true]
        omega
      | ok result => rfl
    · rw [addLines_cons_error hfault, addLines_cons_error hfault]
      simp [Except.mapError, LineError.lowered, putAbove]

/-! ## Changes of the layout -/

theorem parse_replaceWith (h : text.head? ≠ some mark) :
    parse (Text.replaceWith '\n' ['\r', '\n'] text) = parse text := by
  refine (parse_congr ?_).symm
  rw [linesOf_of_head? h, linesOf_of_head? (head?_replaceWith h)]
  exact (Text.forall₂_replaceWith text).imp fun _ _ => Text.Ended.trim_eq

theorem parse_mark (h : text.head? ≠ some mark) : parse (mark :: text) = parse text := by
  unfold parse
  rw [withoutMark_of_head? h]
  rfl

theorem parse_padded (h : text.head? ≠ some mark)
    (hpadded : List.Forall₂ Padded (text.splitOn '\n') lines) :
    parse (['\n'].intercalate lines) = parse text := by
  have hne : lines ≠ [] := by
    intro hnil
    rw [hnil] at hpadded
    exact List.splitOn_ne_nil '\n' text (List.forall₂_nil_right_iff.1 hpadded)
  refine (parse_congr ?_).symm
  rw [linesOf_of_head? h,
    linesOf_intercalate (not_mem_lf_padded hpadded (Text.not_mem_lf_splitOn text)) hne
      (unmarked_padded hpadded (unmarked_splitOn h))]
  exact hpadded.imp fun _ _ => Padded.trim_eq

theorem parse_interleave (h : text.head? ≠ some mark)
    (hgaps : ∀ gap ∈ gaps, ∀ line ∈ gap, '\n' ∉ line ∧ Says line .nothing) :
    parse (['\n'].intercalate (interleave gaps (text.splitOn '\n'))) =
      (parse text).mapError fun error => error.lowered (putAbove gaps error.line) := by
  have hnothing : ∀ gap ∈ gaps, ∀ line ∈ gap, Says line .nothing :=
    fun gap hgap line hline => (hgaps gap hgap line hline).2
  have hlf : ∀ line ∈ interleave gaps (text.splitOn '\n'), '\n' ∉ line := by
    intro line hline
    rcases mem_interleave hline with hline | ⟨gap, hgap, hline⟩
    · exact Text.not_mem_lf_splitOn text line hline
    · exact (hgaps gap hgap line hline).1
  -- The text is cut into the same lines again, as none of them holds a line feed.
  have hlines : linesOf (['\n'].intercalate (interleave gaps (text.splitOn '\n'))) =
      interleave gaps (text.splitOn '\n') :=
    linesOf_intercalate hlf (interleave_ne_nil (List.splitOn_ne_nil '\n' text))
      (unmarked_interleave hnothing (unmarked_splitOn h))
  rw [parse_eq, parse_eq, hlines, linesOf_of_head? h, addLines_eq_lowered,
    addLines_eq_lowered _ 1 (text.splitOn '\n'), addLines_interleave hnothing]
  cases addLines {} 0 (text.splitOn '\n') with
  | error error =>
    simp only [Except.mapError, LineError.lowered, Except.error.injEq, LineError.mk.injEq, and_true]
    omega
  | ok contents => rfl

/-- **Layout does not matter.** -/
theorem parse_layout (text : List Char) (h : text.head? ≠ some mark) :
    parse (Text.replaceWith '\n' ['\r', '\n'] text) = parse text ∧
    parse (mark :: text) = parse text ∧
    (∀ lines, List.Forall₂ Padded (text.splitOn '\n') lines →
      parse (['\n'].intercalate lines) = parse text) ∧
    ∀ gaps, (∀ gap ∈ gaps, ∀ line ∈ gap, '\n' ∉ line ∧ Says line .nothing) →
      parse (['\n'].intercalate (interleave gaps (text.splitOn '\n'))) =
        (parse text).mapError fun error => error.lowered (putAbove gaps error.line) :=
  ⟨parse_replaceWith h, parse_mark h, fun _ => parse_padded h, fun _ => parse_interleave h⟩

/-- Spaces around both lines of a file, and three lines above the malformed one. -/
theorem parse_layout_malformed :
    "[*]\na".toList.head? ≠ some mark ∧
    parse "[*] \n\ta".toList = parse "[*]\na".toList ∧
    parse "# c\n[*]\n\n;\na".toList = .error ⟨5, .noEqualsSign⟩ := by
  have hmark : "[*]\na".toList.head? ≠ some mark := by decide
  obtain ⟨-, -, hpadded, hgaps⟩ := parse_layout "[*]\na".toList hmark
  refine ⟨hmark, hpadded ["[*] ".toList, "\ta".toList] ?_,
    hgaps [["# c".toList], [[], [';']]] ?_⟩
  · refine .cons ⟨[], "[*]".toList, [' '], [], rfl, rfl, by simp, .inl rfl⟩ (.cons ?_ .nil)
    exact ⟨['\t'], ['a'], [], [], rfl, rfl, by simp, .inl rfl⟩
  · simp only [← read_eq_ok_iff]
    decide

end Contents

end StyleCheck.EditorConfig
