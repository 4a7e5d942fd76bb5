import StyleCheck.Text.Lines

/-!
# Laws of lines

A text is its segments, one after the other (`joined_segments`), and segments that are in the form
in which a text has them are found again in the text that they make (`segments_joined`): no line
holds an end of line, only the last line may lack its end and then is not empty, and no carriage
return that ends a line stands before a line feed.

So a line can be exchanged for another one that is not empty: the other lines stay the same, and
the ends of all lines do (`segments_replaceLine`). An empty line would not do, because it may lie
between a carriage return and a line feed.
-/

namespace StyleCheck.Text

variable {c : Char} {text line new rest : List Char} {ending : EndOfLine} {list : List Segment}
  {i : Nat}

/-! ## The form of segments -/

/-- The text holds no end of line. -/
def IsLine (text : List Char) : Prop := '\n' ∉ text ∧ '\r' ∉ text

/-- The text that segments make. -/
def joined (list : List Segment) : List Char := list.flatMap Segment.chars

/-- Segments as a text has them. -/
inductive Segmented : List Segment → Prop
  | nil : Segmented []
  | last {line : List Char} : IsLine line → line ≠ [] → Segmented [(line, none)]
  | cons {line : List Char} {ending : EndOfLine} {rest : List Segment} : IsLine line →
    (ending = .cr → (joined rest).head? ≠ some '\n') → Segmented rest →
    Segmented ((line, some ending) :: rest)

theorem isLine_nil : IsLine [] := ⟨List.not_mem_nil, List.not_mem_nil⟩

theorem isLine_cons : IsLine (c :: line) ↔ c ≠ '\n' ∧ c ≠ '\r' ∧ IsLine line := by
  unfold IsLine
  rw [List.mem_cons, List.mem_cons, not_or, not_or, and_and_and_comm, and_assoc]
  exact and_congr ne_comm (and_congr_left fun _ => ne_comm)

/-! ## From a text to its segments -/

/-- **A text is its segments**, one after the other. -/
theorem joined_segments (text : List Char) : joined (segments text) = text := by
  fun_induction segments text with
  | case1 => rfl
  | case2 rest ih => exact congrArg ('\n' :: ·) ih
  | case3 rest ih => exact congrArg ('\r' :: '\n' :: ·) ih
  | case4 rest _ ih => exact congrArg ('\r' :: ·) ih
  | case5 c rest _ _ _ h ih =>
    rw [h] at ih
    exact congrArg (c :: ·) ih
  | case6 c rest _ _ _ line ending more h ih =>
    rw [h] at ih
    exact congrArg (c :: ·) ih

theorem Segmented.push (hc : c ≠ '\n' ∧ c ≠ '\r') {end? : Option EndOfLine}
    (h : Segmented ((line, end?) :: list)) : Segmented ((c :: line, end?) :: list) := by
  cases h with
  | last hline hne => exact .last (isLine_cons.2 ⟨hc.1, hc.2, hline⟩) (List.cons_ne_nil _ _)
  | cons hline hnext hrest => exact .cons (isLine_cons.2 ⟨hc.1, hc.2, hline⟩) hnext hrest

theorem segmented_segments (text : List Char) : Segmented (segments text) := by
  fun_induction segments text with
  | case1 => exact .nil
  | case2 rest ih => exact .cons isLine_nil nofun ih
  | case3 rest ih => exact .cons isLine_nil nofun ih
  | case4 rest hrest ih =>
    refine .cons isLine_nil (fun _ hhead => ?_) ih
    rw [joined_segments] at hhead
    obtain ⟨more, hmore⟩ := List.head?_eq_some_iff.1 hhead
    exact hrest more hmore
  | case5 c rest hlf _ hcr h ih =>
    exact .last (isLine_cons.2 ⟨hlf, hcr, isLine_nil⟩) (List.cons_ne_nil _ _)
  | case6 c rest hlf _ hcr line ending more h ih =>
    rw [h] at ih
    exact ih.push ⟨hlf, hcr⟩

/-! ## From segments to their text -/

theorem segments_cr (h : rest.head? ≠ some '\n') :
    segments ('\r' :: rest) = ([], some .cr) :: segments rest := by
  cases rest with
  | nil => rfl
  | cons c rest =>
    rw [segments]
    rintro _ ⟨⟩
    exact h rfl

theorem segments_push_nil (hc : c ≠ '\n' ∧ c ≠ '\r') (h : segments rest = []) :
    segments (c :: rest) = [([c], none)] := by
  rw [segments, h]
  · exact hc.1
  · exact fun _ heq _ => hc.2 heq
  · exact hc.2

theorem segments_push_cons (hc : c ≠ '\n' ∧ c ≠ '\r') {end? : Option EndOfLine}
    (h : segments rest = (line, end?) :: list) :
    segments (c :: rest) = (c :: line, end?) :: list := by
  rw [segments, h]
  · exact hc.1
  · exact fun _ heq _ => hc.2 heq
  · exact hc.2

theorem segments_append (hline : IsLine line) {first : List Char} {end? : Option EndOfLine}
    (h : segments rest = (first, end?) :: list) :
    segments (line ++ rest) = (line ++ first, end?) :: list := by
  induction line with
  | nil => exact h
  | cons c line ih =>
    obtain ⟨hlf, hcr, hline⟩ := isLine_cons.1 hline
    exact segments_push_cons ⟨hlf, hcr⟩ (ih hline)

theorem segments_line (hline : IsLine line) (hne : line ≠ []) : segments line = [(line, none)] := by
  induction line with
  | nil => exact absurd rfl hne
  | cons c line ih =>
    obtain ⟨hlf, hcr, hline⟩ := isLine_cons.1 hline
    cases line with
    | nil => exact segments_push_nil ⟨hlf, hcr⟩ rfl
    | cons d line => exact segments_push_cons ⟨hlf, hcr⟩ (ih hline (List.cons_ne_nil d line))

theorem segments_ending (ending : EndOfLine) (h : ending = .cr → rest.head? ≠ some '\n') :
    segments (ending.sequence ++ rest) = ([], some ending) :: segments rest := by
  cases ending with
  | lf => rfl
  | cr => exact segments_cr (h rfl)
  | crlf => rfl

theorem joined_cons (segment : Segment) (list : List Segment) :
    joined (segment :: list) = segment.chars ++ joined list := List.flatMap_cons

/-- **Segments are found again** in the text that they make. -/
theorem segments_joined (h : Segmented list) : segments (joined list) = list := by
  induction h with
  | nil => rfl
  | @last line hline hne =>
    have hjoined : joined [(line, none)] = line := by simp [joined, Segment.chars]
    rw [hjoined, segments_line hline hne]
  | @cons line ending rest hline hnext _ ih =>
    have hjoined : joined ((line, some ending) :: rest) =
        line ++ (ending.sequence ++ joined rest) := by
      simp [joined_cons, Segment.chars]
    rw [hjoined, segments_append hline (segments_ending ending hnext), List.append_nil, ih]

/-! ## The ends of lines -/

/-- The ends of the lines of a text, in their order. -/
def endings (text : List Char) : List (Option EndOfLine) := (segments text).map Prod.snd

@[simp]
theorem endings_nil : endings [] = [] := rfl

@[simp]
theorem endings_lf : endings ('\n' :: rest) = some .lf :: endings rest := rfl

@[simp]
theorem endings_crlf : endings ('\r' :: '\n' :: rest) = some .crlf :: endings rest := rfl

theorem endings_cr (h : rest.head? ≠ some '\n') :
    endings ('\r' :: rest) = some .cr :: endings rest := by
  rw [endings, segments_cr h]
  rfl

theorem endings_one (hc : c ≠ '\n' ∧ c ≠ '\r') : endings [c] = [none] := by
  rw [endings, segments_push_nil hc rfl]
  rfl

theorem endings_eq_nil_iff : endings text = [] ↔ text = [] := by
  constructor
  · intro h
    have hsegments : segments text = [] := List.map_eq_nil_iff.1 h
    rw [← joined_segments text, hsegments]
    rfl
  · rintro rfl
    rfl

theorem endings_char (hc : c ≠ '\n' ∧ c ≠ '\r') (h : rest ≠ []) :
    endings (c :: rest) = endings rest := by
  cases hrest : segments rest with
  | nil => exact absurd (endings_eq_nil_iff.1 (List.map_eq_nil_iff.2 hrest)) h
  | cons segment list =>
    rw [endings, segments_push_cons hc hrest, endings, hrest]
    rfl

/-- Induction on a text by the characters that end a line and those that do not. -/
@[elab_as_elim]
theorem lineInduction {motive : List Char → Prop} (text : List Char) (nil : motive [])
    (lf : ∀ rest, motive rest → motive ('\n' :: rest))
    (crlf : ∀ rest, motive rest → motive ('\r' :: '\n' :: rest))
    (cr : ∀ rest, rest.head? ≠ some '\n' → motive rest → motive ('\r' :: rest))
    (one : ∀ c, c ≠ '\n' ∧ c ≠ '\r' → motive [c])
    (char : ∀ c rest, c ≠ '\n' ∧ c ≠ '\r' → rest ≠ [] → motive rest → motive (c :: rest)) :
    motive text := by
  fun_induction segments text with
  | case1 => exact nil
  | case2 rest ih => exact lf rest ih
  | case3 rest ih => exact crlf rest ih
  | case4 rest hrest ih =>
    refine cr rest (fun hhead => ?_) ih
    obtain ⟨more, hmore⟩ := List.head?_eq_some_iff.1 hhead
    exact hrest more hmore
  | case5 c rest hlf _ hcr h ih =>
    -- The rest has no segments, so it is empty.
    have hrest := joined_segments rest
    rw [h] at hrest
    rw [← hrest]
    exact one c ⟨hlf, hcr⟩
  | case6 c rest hlf _ hcr line ending more h ih =>
    refine char c rest ⟨hlf, hcr⟩ (fun hnil => ?_) ih
    rw [hnil] at h
    cases h

/-! ## Exchanging a line -/

/-- The text with another text in place of a line; the end of the line stays. -/
def replaceLine (text : List Char) (i : Nat) (new : List Char) : List Char :=
  joined ((segments text).modify i fun segment => (new, segment.2))

theorem Segmented.chars_ne_nil {segment : Segment} (h : Segmented (segment :: list)) :
    segment.chars ≠ [] := by
  cases h with
  | last _ hne => simpa [Segment.chars] using hne
  | @cons line ending _ _ _ _ => cases ending <;> simp [Segment.chars, EndOfLine.sequence]

theorem head?_joined {segment : Segment} (h : segment.chars ≠ []) :
    (joined (segment :: list)).head? = segment.chars.head? := by
  obtain ⟨c, chars, hchars⟩ := List.exists_cons_of_ne_nil h
  rw [joined_cons, hchars]
  rfl

theorem head?_joined_replaced (hlist : Segmented list) (hnew : IsLine new) (hne : new ≠ [])
    (h : (joined list).head? ≠ some '\n') (i : Nat) :
    (joined (list.modify i fun segment => (new, segment.2))).head? ≠ some '\n' := by
  cases list with
  | nil => rwa [List.modify_nil]
  | cons segment list =>
    have hchars := hlist.chars_ne_nil
    cases i with
    | zero =>
      obtain ⟨c, new, rfl⟩ := List.exists_cons_of_ne_nil hne
      intro hhead
      exact (isLine_cons.1 hnew).1 (Option.some.inj hhead)
    | succ i =>
      rw [List.modify_succ_cons, head?_joined hchars, ← head?_joined hchars]
      exact h

theorem Segmented.replaced (h : Segmented list) (hnew : IsLine new) (hne : new ≠ []) (i : Nat) :
    Segmented (list.modify i fun segment => (new, segment.2)) := by
  induction h generalizing i with
  | nil => rw [List.modify_nil]; exact .nil
  | last hline hne' =>
    cases i with
    | zero => exact .last hnew hne
    | succ i => rw [List.modify_succ_cons, List.modify_nil]; exact .last hline hne'
  | cons hline hnext hrest ih =>
    cases i with
    | zero => exact .cons hnew hnext hrest
    | succ i =>
      rw [List.modify_succ_cons]
      exact .cons hline (fun hending => head?_joined_replaced hrest hnew hne (hnext hending) i)
        (ih i)

/-- **Exchanging a line exchanges its segment**, and no other one. -/
theorem segments_replaceLine (text : List Char) (i : Nat) (hnew : IsLine new) (hne : new ≠ []) :
    segments (replaceLine text i new) =
      (segments text).modify i fun segment => (new, segment.2) :=
  segments_joined ((segmented_segments text).replaced hnew hne i)

theorem lines_replaceLine (text : List Char) (i : Nat) (hnew : IsLine new) (hne : new ≠ []) :
    lines (replaceLine text i new) = (lines text).set i new := by
  rw [lines, lines, segments_replaceLine text i hnew hne]
  generalize segments text = list
  induction list generalizing i with
  | nil => rw [List.modify_nil]; rfl
  | cons segment list ih =>
    cases i with
    | zero => rfl
    | succ i => exact congrArg (segment.1 :: ·) (ih i)

theorem endings_replaceLine (text : List Char) (i : Nat) (hnew : IsLine new) (hne : new ≠ []) :
    endings (replaceLine text i new) = endings text := by
  rw [endings, endings, segments_replaceLine text i hnew hne]
  generalize segments text = list
  induction list generalizing i with
  | nil => rw [List.modify_nil]
  | cons segment list ih =>
    cases i with
    | zero => rfl
    | succ i => exact congrArg (segment.2 :: ·) (ih i)

end StyleCheck.Text
