import StyleCheck.Path.Basic
import StyleCheck.Proofs.Path.Here

/-!
# Shown paths

Reports show a path without the `./` in front of it. What they show is a path again (`shown`), and
it should name the same file.

**Theorem (`plain_shown`).** Showing a shown path changes nothing. A path without backslashes is
shown with the components that it has, `.` aside, and stays relative or absolute as it is, unless
a separator follows the `./` that it starts with: `.//a` is shown as `/a`, a path from the root.

A `./` in front leaves no other trace in the components than a `.`, so the components between
separators are the same before and after (`between_dropHere`). The root is not among them: it is the
separator that the text starts with, and this is where what is left behind the `./` may differ from
the path.
-/

namespace StyleCheck.Path

variable {path other : Path}

/-- What is shown, read as a path. -/
def shown (path : Path) : Path := ⟨path.display⟩

/-- Behind the `./` that the path starts with, once or more often, stands another separator. -/
def DoublesSeparator (path : Path) : Prop :=
  ∃ n rest, path.text.toList = (List.replicate (n + 1) ['.', '/']).flatten ++ '/' :: rest

/-! ## Components between separators -/

/-- The components of the pieces between separators, of which none is the root or a `.`. -/
def between (text : List Char) : List Component :=
  (Text.piecesAt '/' text).filterMap (componentOf false)

theorem filter_pieces (pieces : List (List Char)) :
    (pieces.filterMap (componentOf false)).filter (· != .here) =
      pieces.filterMap (componentOf false) := by
  refine List.filter_eq_self.2 fun component hmem => ?_
  obtain ⟨piece, -, hpiece⟩ := List.mem_filterMap.1 hmem
  exact bne_iff_ne.2 (componentOf_false_ne hpiece).2

/-- Only a `.` is a component in the first place and none behind a separator. -/
theorem filter_componentOf_true (piece : List Char) :
    (componentOf true piece).toList.filter (· != .here) = (componentOf false piece).toList := by
  unfold componentOf
  by_cases hempty : piece = []
  · simp [hempty]
  · by_cases hhere : piece = ['.']
    · simp [hhere]
    · by_cases hup : piece = ['.', '.'] <;> simp [hempty, hhere, hup]

/-- Apart from the root, the components of a path are those between its separators. -/
theorem plain_eq (path : Path) :
    path.plain = (if path.isAbsolute then [.root] else []) ++ between path.text.toList := by
  obtain ⟨more, hmore⟩ := List.head?_eq_some_iff.1 (Text.head?_piecesAt '/' path.text.toList)
  unfold plain components between
  rw [hmore]
  cases habsolute : path.isAbsolute with
  | true =>
    -- The first piece is empty: the text starts with a separator.
    obtain ⟨text, htext⟩ := List.head?_eq_some_iff.1 (beq_iff_eq.1 habsolute)
    simp [filter_pieces, htext, componentOf]
  | false =>
    rw [List.filterMap_cons]
    simp only [if_neg Bool.false_ne_true, List.filter_append, filter_componentOf_true,
      filter_pieces, List.nil_append]
    cases componentOf false (path.text.toList.takeWhile fun c => c != '/') <;> rfl

theorem between_dropHere (text : List Char) : between (dropHere text) = between text := by
  fun_induction dropHere text with
  | case1 rest ih =>
    rw [ih]
    rfl
  | case2 text => rfl

/-! ## What is left behind `./` -/

theorem dropHere_replicate (n : Nat) (text : List Char) :
    dropHere ((List.replicate n ['.', '/']).flatten ++ text) = dropHere text := by
  induction n with
  | zero => rfl
  | succ n ih =>
    rw [List.replicate_succ, List.flatten_cons, List.append_assoc]
    exact ih

theorem exists_replicate_dropHere (text : List Char) :
    ∃ n, text = (List.replicate n ['.', '/']).flatten ++ dropHere text := by
  fun_induction dropHere text with
  | case1 rest ih =>
    obtain ⟨n, hn⟩ := ih
    refine ⟨n + 1, ?_⟩
    rw [List.replicate_succ, List.flatten_cons, List.append_assoc, ← hn]
    rfl
  | case2 text => exact ⟨0, rfl⟩

theorem dropHere_dropHere (text : List Char) : dropHere (dropHere text) = dropHere text := by
  fun_induction dropHere text with
  | case1 rest ih => exact ih
  | case2 text hnot =>
    unfold dropHere
    split
    next rest => exact absurd rfl (hnot rest)
    · rfl

theorem suffix_dropHere (text : List Char) : dropHere text <:+ text := by
  obtain ⟨n, hn⟩ := exists_replicate_dropHere text
  exact ⟨_, hn.symm⟩

/-- A separator follows if it is what is left, and something was taken away. -/
theorem doublesSeparator_iff : path.DoublesSeparator ↔
    path.isAbsolute = false ∧ (dropHere path.text.toList).head? = some '/' := by
  constructor
  · rintro ⟨n, rest, htext⟩
    constructor
    · rw [isAbsolute, htext]
      rfl
    · rw [htext, dropHere_replicate]
      rfl
  · rintro ⟨hrelative, hhead⟩
    obtain ⟨rest, hrest⟩ := List.head?_eq_some_iff.1 hhead
    obtain ⟨n, hn⟩ := exists_replicate_dropHere path.text.toList
    rw [hrest] at hn
    cases n with
    | zero => simp [isAbsolute, hn] at hrelative
    | succ n => exact ⟨n, rest, hn⟩

/-! ## What is shown -/

theorem eq_of_toList_text (h : path.text.toList = other.text.toList) : path = other := by
  cases path
  cases other
  exact congrArg Path.mk (String.toList_inj.1 h)

/-- The text that is shown, unless it is empty: then a `.` is. -/
def behindHere (path : Path) : List Char := dropHere (Text.replaceWith '\\' ['/'] path.text.toList)

theorem behindHere_of_not_mem (h : '\\' ∉ path.text.toList) :
    path.behindHere = dropHere path.text.toList := by
  rw [behindHere, Text.replaceWith_of_not_mem h]

theorem text_shown (path : Path) :
    path.shown.text.toList = if path.behindHere = [] then ['.'] else path.behindHere := by
  have hshown : path.shown.text = display path := rfl
  rw [hshown]
  unfold display behindHere
  cases dropHere (Text.replaceWith '\\' ['/'] path.text.toList) with
  | nil => rfl
  | cons c text => simp

theorem behindHere_shown (path : Path) :
    path.shown.behindHere = if path.behindHere = [] then ['.'] else path.behindHere := by
  have hnot : '\\' ∉ path.behindHere := fun hmem =>
    Text.not_mem_replaceWith (by decide) ((suffix_dropHere _).subset hmem)
  by_cases hempty : path.behindHere = []
  · rw [behindHere, text_shown, if_pos hempty]
    rfl
  · rw [behindHere, text_shown, if_neg hempty, Text.replaceWith_of_not_mem hnot]
    exact dropHere_dropHere _

theorem shown_shown (path : Path) : path.shown.shown = path.shown := by
  apply eq_of_toList_text
  rw [text_shown path.shown, behindHere_shown, text_shown path]
  by_cases hempty : path.behindHere = [] <;> simp [hempty]

theorem between_shown (h : '\\' ∉ path.text.toList) :
    between path.shown.text.toList = between path.text.toList := by
  rw [← between_dropHere path.text.toList, ← behindHere_of_not_mem h, text_shown]
  by_cases hempty : path.behindHere = []
  · rw [if_pos hempty, hempty]
    rfl
  · rw [if_neg hempty]

theorem isAbsolute_shown (h : '\\' ∉ path.text.toList) :
    path.shown.isAbsolute = ((dropHere path.text.toList).head? == some '/') := by
  rw [isAbsolute, text_shown, behindHere_of_not_mem h]
  by_cases hempty : dropHere path.text.toList = []
  · rw [if_pos hempty, hempty]
    rfl
  · rw [if_neg hempty]

theorem isAbsolute_shown_of_isAbsolute (h : '\\' ∉ path.text.toList)
    (habsolute : path.isAbsolute = true) : path.shown.isAbsolute = true := by
  obtain ⟨rest, hrest⟩ := List.head?_eq_some_iff.1 (beq_iff_eq.1 habsolute)
  rw [isAbsolute_shown h, hrest]
  rfl

/-- **A shown path names the same file**, unless a separator stands behind the `./` in front of
it. Then a relative path is shown as one from the root. -/
theorem plain_shown (path : Path) :
    path.shown.shown = path.shown ∧
      ('\\' ∉ path.text.toList →
        (¬ path.DoublesSeparator →
          path.shown.isAbsolute = path.isAbsolute ∧ path.shown.plain = path.plain) ∧
        (path.DoublesSeparator →
          path.isAbsolute = false ∧ path.shown.isAbsolute = true ∧
            path.shown.plain = .root :: path.plain)) := by
  refine ⟨shown_shown path, fun h => ⟨fun hsingle => ?_, fun hdouble => ?_⟩⟩
  · have habsolute : path.shown.isAbsolute = path.isAbsolute := by
      cases hpath : path.isAbsolute with
      | true => exact isAbsolute_shown_of_isAbsolute h hpath
      | false =>
        rw [isAbsolute_shown h]
        exact beq_eq_false_iff_ne.2 fun hhead => hsingle (doublesSeparator_iff.2 ⟨hpath, hhead⟩)
    refine ⟨habsolute, ?_⟩
    rw [plain_eq, plain_eq, habsolute, between_shown h]
  · obtain ⟨hrelative, hhead⟩ := doublesSeparator_iff.1 hdouble
    have habsolute : path.shown.isAbsolute = true := by
      rw [isAbsolute_shown h]
      exact beq_iff_eq.2 hhead
    refine ⟨hrelative, habsolute, ?_⟩
    rw [plain_eq, plain_eq, habsolute, hrelative, between_shown h]
    rfl

/-- A path that keeps its doubled separators, and one that gets a root from them. -/
theorem plain_shown_doubled :
    let path : Path := ⟨"././a//./b/"⟩
    let other : Path := ⟨"././/a"⟩
    '\\' ∉ path.text.toList ∧ ¬ path.DoublesSeparator ∧ path.shown = ⟨"a//./b/"⟩ ∧
      path.shown.plain = path.plain ∧
      '\\' ∉ other.text.toList ∧ other.DoublesSeparator ∧
      other.shown.plain = .root :: other.plain := by
  intro path other
  have hpath : '\\' ∉ path.text.toList := by decide
  have hother : '\\' ∉ other.text.toList := by decide
  have hsingle : ¬ path.DoublesSeparator := by
    rw [doublesSeparator_iff]
    decide
  have hdouble : other.DoublesSeparator := ⟨1, ['a'], by decide⟩
  have hshown : path.shown = ⟨"a//./b/"⟩ := by decide +kernel
  obtain ⟨-, hplain⟩ := ((plain_shown path).2 hpath).1 hsingle
  obtain ⟨-, -, hrooted⟩ := ((plain_shown other).2 hother).2 hdouble
  exact ⟨hpath, hsingle, hshown, hplain, hother, hdouble, hrooted⟩

/-- With a separator behind its `./`, a relative path is shown as an absolute one. -/
theorem not_plain_shown :
    '\\' ∉ (⟨".//a"⟩ : Path).text.toList ∧ (⟨".//a"⟩ : Path).isAbsolute = false ∧
      (⟨".//a"⟩ : Path).shown = ⟨"/a"⟩ ∧
      (⟨".//a"⟩ : Path).shown.isAbsolute = true ∧
      (⟨".//a"⟩ : Path).shown.plain ≠ (⟨".//a"⟩ : Path).plain := by
  decide

end StyleCheck.Path
