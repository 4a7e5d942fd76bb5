import StyleCheck.Proofs.Regex.Prefix
import StyleCheck.Validation.Rule

/-!
# The rules on indentation

The rules match expressions. Here they are said by the numbers of spaces and tabs that a line starts
with and by what is behind them.

**Theorem (`spaceRecalling_after`).** Whatever lines were checked before, a line indented by spaces
breaks the rule if a tab is behind its spaces, or if their number is no multiple of the size and no
comment's star is behind them that one space more is allowed for.

**Theorem (`tab_eq_none_iff`).** A line indented by tabs keeps the rule if no space is behind its
tabs, or one space with a comment's star, or, where spaces may follow tabs, any number of spaces:
without a tab in front of them one at most, and never with a tab behind them.

The line is cut into runs of one character, each followed by something else, and the expressions
are matched run by run. Where an expression could stop inside a run, what has to come next does not
start with that character, except that a star may have a space in front. The memory of expressions
holds for each size what would be made for it (`IndentMemory.Sound`); a check keeps that, so what
was checked before has no influence.
-/

namespace StyleCheck.Rule

variable {text rest : List Char} {n a b : Nat} {memory : IndentMemory}

/-! ## Runs at the start of a line -/

/-- How many copies of a character a line starts with. -/
def leading (c : Char) (line : List Char) : Nat := (line.takeWhile (· == c)).length

/-- What follows the copies of a character that a line starts with. -/
def behind (c : Char) (line : List Char) : List Char := line.dropWhile (· == c)

theorem replicate_append_behind (c : Char) (line : List Char) :
    List.replicate (leading c line) c ++ behind c line = line := by
  have hrun : line.takeWhile (· == c) = List.replicate (leading c line) c := by
    refine List.eq_replicate_iff.2 ⟨rfl, fun d hd => ?_⟩
    exact beq_iff_eq.1 (List.all_eq_true.1 List.all_takeWhile d hd)
  rw [← hrun]
  exact List.takeWhile_append_dropWhile

theorem head?_behind (c : Char) (line : List Char) : (behind c line).head? ≠ some c := by
  intro h
  have hnot := List.head?_dropWhile_not (· == c) line
  unfold behind at h
  rw [h] at hnot
  simp at hnot

/-! ## What follows an indentation -/

/-- The text starts with the star of a block comment: a space, a tab, a slash or nothing is behind
it. -/
def StartsAtStar (text : List Char) : Prop :=
  text.head? = some '*' ∧ ∀ c ∈ text[1]?, c = ' ' ∨ c = '\t' ∨ c = '/'

theorem isPrefixMatch_textOrEnd :
    textOrEnd.isPrefixMatch text = true ↔ text.head? ≠ some ' ' ∧ text.head? ≠ some '\t' := by
  rw [textOrEnd, Regex.isPrefixMatch_alt, Regex.isPrefixMatch_one, Regex.isPrefixMatch_atEnd]
  cases text with
  | nil => simp
  | cons c text => simp [isPadding]

theorem isPrefixMatch_commentStar :
    commentStar.isPrefixMatch text = true ↔ ∃ rest, text = ' ' :: rest ∧ StartsAtStar rest := by
  simp only [commentStar, Regex.isPrefixMatch_symbol_seq, Regex.isPrefixMatch_alt,
    Regex.isPrefixMatch_one, Regex.isPrefixMatch_atEnd]
  refine exists_congr fun rest => and_congr_right fun _ => ?_
  constructor
  · rintro ⟨next, rfl, hnext⟩
    refine ⟨rfl, fun c hc => ?_⟩
    cases next with
    | nil => cases hc
    | cons d next =>
      cases hc
      simpa [isPadding, or_assoc] using hnext
  · rintro ⟨hstar, hnext⟩
    obtain ⟨next, rfl⟩ := List.head?_eq_some_iff.1 hstar
    refine ⟨next, rfl, ?_⟩
    cases next with
    | nil => exact .inr rfl
    | cons c next => exact .inl ⟨c, rfl, by simpa [isPadding, or_assoc] using hnext c rfl⟩

/-! ## Expressions behind spaces -/

theorem isPrefixMatch_textOrEnd_run (hrest : rest.head? ≠ some ' ') :
    textOrEnd.isPrefixMatch (List.replicate n ' ' ++ rest) = true ↔
      n = 0 ∧ rest.head? ≠ some '\t' := by
  rw [isPrefixMatch_textOrEnd]
  cases n with
  | zero => simp [hrest]
  | succ n => simp [List.replicate_succ]

theorem isPrefixMatch_commentStar_run (hrest : rest.head? ≠ some ' ') :
    commentStar.isPrefixMatch (List.replicate n ' ' ++ rest) = true ↔
      n = 1 ∧ StartsAtStar rest := by
  rw [isPrefixMatch_commentStar]
  rcases n with _ | _ | n
  · refine iff_of_false ?_ (by simp)
    rintro ⟨next, heq, -⟩
    exact hrest (congrArg List.head? heq)
  · simp
  · simp [List.replicate_succ, StartsAtStar]

theorem isPrefixMatch_textOrStar (hrest : rest.head? ≠ some ' ') :
    (Regex.alt textOrEnd commentStar).isPrefixMatch (List.replicate n ' ' ++ rest) = true ↔
      (n = 0 ∧ rest.head? ≠ some '\t') ∨ (n = 1 ∧ StartsAtStar rest) := by
  rw [Regex.isPrefixMatch_alt, isPrefixMatch_textOrEnd_run hrest,
    isPrefixMatch_commentStar_run hrest]

/-! ## Indentation by spaces -/

theorem isPrefixMatch_spaceIndent (line : List Char) :
    spaceIndent.isPrefixMatch line = true ↔ (behind ' ' line).head? ≠ some '\t' := by
  have hrest : (behind ' ' line).head? ≠ some ' ' := head?_behind ' ' line
  have hspace : ∀ text, ¬ textOrEnd.isPrefixMatch (' ' :: text) = true := by
    simp [isPrefixMatch_textOrEnd]
  calc spaceIndent.isPrefixMatch line = true
    _ ↔ spaceIndent.isPrefixMatch
          (List.replicate (leading ' ' line) ' ' ++ behind ' ' line) = true := by
      rw [replicate_append_behind]
    _ ↔ textOrEnd.isPrefixMatch (behind ' ' line) = true :=
      Regex.isPrefixMatch_many_run hrest hspace
    _ ↔ (behind ' ' line).head? ≠ some '\t' := by
      rw [isPrefixMatch_textOrEnd, and_iff_right hrest]

/-- All the spaces are taken by blocks, or all but the one that belongs to a comment's star. -/
theorem isPrefixMatch_sizedIndent (line : List Char) (size : Nat) :
    (sizedIndent size).isPrefixMatch line = true ↔
      (size ∣ leading ' ' line ∧ (behind ' ' line).head? ≠ some '\t') ∨
        (1 ≤ leading ' ' line ∧ size ∣ leading ' ' line - 1 ∧ StartsAtStar (behind ' ' line)) := by
  have hrest : (behind ' ' line).head? ≠ some ' ' := head?_behind ' ' line
  have hblocks : (sizedIndent size).isPrefixMatch line = true ↔
      ∃ kept ≤ leading ' ' line, size ∣ leading ' ' line - kept ∧
        (Regex.alt textOrEnd commentStar).isPrefixMatch
          (List.replicate kept ' ' ++ behind ' ' line) = true := by
    rw [← Regex.isPrefixMatch_blocks_run hrest, replicate_append_behind]
    rfl
  rw [hblocks]
  simp only [isPrefixMatch_textOrStar hrest]
  constructor
  · rintro ⟨kept, hle, hsize, ⟨rfl, htab⟩ | ⟨rfl, hstar⟩⟩
    · exact .inl ⟨hsize, htab⟩
    · exact .inr ⟨hle, hsize, hstar⟩
  · rintro (⟨hsize, htab⟩ | ⟨hle, hsize, hstar⟩)
    · exact ⟨0, Nat.zero_le _, hsize, .inl ⟨rfl, htab⟩⟩
    · exact ⟨1, hle, hsize, .inr ⟨rfl, hstar⟩⟩

/-- An empty line is no special case. -/
theorem space_eq (line : List Char) (size : Nat) (options : CheckOptions) :
    space line size options =
      if spaceIndent.isPrefixMatch line = false then some .tabsInsteadOfSpaces
      else if options.disabled.indentSize = false ∧ 0 < size ∧ size < uncheckedSize ∧
          (sizedIndent size).isPrefixMatch line = false then some (.indentSize size)
      else none := by
  unfold space
  cases line with
  | nil =>
    have hspace : spaceIndent.isPrefixMatch [] = true :=
      (isPrefixMatch_spaceIndent []).2 nofun
    have hsized : (sizedIndent size).isPrefixMatch [] = true :=
      (isPrefixMatch_sizedIndent [] size).2 (.inl ⟨Nat.dvd_zero size, nofun⟩)
    simp [hspace, hsized]
  | cons c line =>
    rw [if_neg (by simp)]
    grind

theorem space_eq_tabs_iff (line : List Char) (size : Nat) (options : CheckOptions) :
    space line size options = some .tabsInsteadOfSpaces ↔
      (behind ' ' line).head? = some '\t' := by
  have hspace := isPrefixMatch_spaceIndent line
  rw [space_eq]
  grind

theorem space_eq_size_iff (line : List Char) (size : Nat) (options : CheckOptions) :
    space line size options = some (.indentSize size) ↔
      (behind ' ' line).head? ≠ some '\t' ∧ options.disabled.indentSize = false ∧ 0 < size ∧
        size < uncheckedSize ∧ ¬ size ∣ leading ' ' line ∧
        ¬ (1 ≤ leading ' ' line ∧ size ∣ leading ' ' line - 1 ∧
          StartsAtStar (behind ' ' line)) := by
  have hspace := isPrefixMatch_spaceIndent line
  have hsized := isPrefixMatch_sizedIndent line size
  rw [space_eq]
  grind

/-! ## The memory of expressions -/

namespace IndentMemory

/-- What is remembered for a size is the expression that would be made for it. -/
def Sound (memory : IndentMemory) : Prop :=
  ∀ size indent, memory.lookup size = some indent → sizedIndent? size = some indent

theorem sound_nil : Sound [] := nofun

theorem Sound.indentFor (h : memory.Sound) (size : Nat) :
    ∃ later, memory.indentFor size = (sizedIndent? size, later) ∧ later.Sound := by
  unfold IndentMemory.indentFor
  cases hlookup : memory.lookup size with
  | some indent => exact ⟨memory, by rw [h size indent hlookup], h⟩
  | none =>
    cases hmade : sizedIndent? size with
    | none => exact ⟨memory, rfl, h⟩
    | some indent =>
      refine ⟨_, rfl, fun other found hfound => ?_⟩
      rw [List.lookup_cons] at hfound
      split at hfound
      next heq =>
        rw [beq_iff_eq.1 heq, hmade]
        exact hfound
      · exact h other found hfound

/-- A check says what it says without a memory, and leaves a sound one. -/
theorem Sound.spaceRecalling (h : memory.Sound) (line : List Char) (size : Nat)
    (options : CheckOptions) :
    ∃ later, Rule.spaceRecalling memory line size options = (space line size options, later) ∧
      later.Sound := by
  obtain ⟨later, hindent, hlater⟩ := h.indentFor size
  unfold Rule.spaceRecalling space
  by_cases hline : line.isEmpty = true
  · simp only [if_pos hline]
    exact ⟨memory, rfl, h⟩
  by_cases hspace : (!spaceIndent.isPrefixMatch line) = true
  · simp only [if_neg hline, if_pos hspace]
    exact ⟨memory, rfl, h⟩
  -- Only when the size is checked is the memory asked.
  cases hoff : options.disabled.indentSize || size == 0 with
  | true =>
    simp only [if_neg hline, if_neg hspace, Bool.true_or, if_true]
    exact ⟨memory, rfl, h⟩
  | false =>
    refine ⟨later, ?_, hlater⟩
    rw [if_neg hline, if_neg hspace, if_neg Bool.false_ne_true, hindent, sizedIndent?]
    by_cases hsize : size < uncheckedSize
    · have hchecked : ¬ uncheckedSize ≤ size := Nat.not_le_of_lt hsize
      simp [hline, hspace, hsize, hchecked]
    · simp [hline, hspace, hsize]

theorem Sound.after (h : memory.Sound) (checks : List SpaceCheck) :
    Sound (memory.after checks) := by
  induction checks generalizing memory with
  | nil => exact h
  | cons check checks ih =>
    obtain ⟨later, hcheck, hlater⟩ := h.spaceRecalling check.line check.size check.options
    rw [IndentMemory.after, List.foldl_cons, hcheck]
    exact ih hlater

end IndentMemory

/-- **The number of leading spaces decides**, and the character behind them, whatever was checked
before. -/
theorem spaceRecalling_after (checks : List SpaceCheck) (line : List Char) (size : Nat)
    (options : CheckOptions) :
    let verdict := (spaceRecalling (IndentMemory.after [] checks) line size options).1
    let spaces := leading ' ' line
    let rest := behind ' ' line
    verdict = space line size options ∧
    (verdict = some .tabsInsteadOfSpaces ↔ rest.head? = some '\t') ∧
    (verdict = some (.indentSize size) ↔
      rest.head? ≠ some '\t' ∧ options.disabled.indentSize = false ∧ 0 < size ∧
        size < uncheckedSize ∧ ¬ size ∣ spaces ∧
        ¬ (1 ≤ spaces ∧ size ∣ spaces - 1 ∧ StartsAtStar rest)) ∧
    (verdict = none ∨ verdict = some .tabsInsteadOfSpaces ∨ verdict = some (.indentSize size)) := by
  intro verdict spaces rest
  have hverdict : verdict = space line size options := by
    obtain ⟨later, hcheck, -⟩ :=
      (IndentMemory.sound_nil.after checks).spaceRecalling line size options
    exact congrArg Prod.fst hcheck
  rw [hverdict]
  refine ⟨rfl, space_eq_tabs_iff line size options, space_eq_size_iff line size options, ?_⟩
  rw [space_eq]
  grind

/-! ## Indentation by tabs -/

theorem isPrefixMatch_tabIndent (hrest : rest.head? ≠ some ' ')
    (htab : (List.replicate b ' ' ++ rest).head? ≠ some '\t') :
    tabIndent.isPrefixMatch (List.replicate a '\t' ++ (List.replicate b ' ' ++ rest)) = true ↔
      b = 0 ∨ (b = 1 ∧ StartsAtStar rest) := by
  have hstart : ∀ text,
      ¬ (Regex.alt textOrEnd commentStar).isPrefixMatch ('\t' :: text) = true := by
    simp [Regex.isPrefixMatch_alt, isPrefixMatch_textOrEnd, isPrefixMatch_commentStar]
  rw [tabIndent, Regex.isPrefixMatch_many_run htab hstart, isPrefixMatch_textOrStar hrest]
  -- Without a space in between, what is behind the tabs is no tab.
  refine or_congr_left (and_iff_left_of_imp ?_)
  rintro rfl
  exact htab

theorem isPrefixMatch_optionalSpace (hrest : rest.head? ≠ some ' ') :
    (Regex.seq (.optional (.symbol ' ')) textOrEnd).isPrefixMatch
        (List.replicate n ' ' ++ rest) = true ↔
      n ≤ 1 ∧ rest.head? ≠ some '\t' := by
  rw [Regex.isPrefixMatch_optional_seq, Regex.isPrefixMatch_symbol_run hrest,
    isPrefixMatch_textOrEnd_run hrest, isPrefixMatch_textOrEnd_run hrest, ← and_assoc,
    ← or_and_right]
  exact and_congr_left fun _ => by omega

theorem isPrefixMatch_tabIndentThenSpaces (hrest : rest.head? ≠ some ' ')
    (htab : (List.replicate b ' ' ++ rest).head? ≠ some '\t') :
    tabIndentThenSpaces.isPrefixMatch (List.replicate a '\t' ++ (List.replicate b ' ' ++ rest)) =
        true ↔
      (1 ≤ a ∨ b ≤ 1) ∧ rest.head? ≠ some '\t' := by
  have hoptional : ∀ text,
      ¬ (Regex.seq (.optional (.symbol ' ')) textOrEnd).isPrefixMatch ('\t' :: text) = true := by
    simp [Regex.isPrefixMatch_optional_seq, Regex.isPrefixMatch_symbol_seq,
      isPrefixMatch_textOrEnd]
  have hmany1 : ∀ text,
      ¬ (Regex.seq (.many1 (· == ' ')) textOrEnd).isPrefixMatch ('\t' :: text) = true := by
    intro text
    rw [Regex.many1, Regex.isPrefixMatch_seq_seq, ← Regex.symbol, Regex.isPrefixMatch_symbol_seq]
    rintro ⟨_, ⟨⟩, -⟩
  have hspace : ∀ text, ¬ textOrEnd.isPrefixMatch (' ' :: text) = true := by
    simp [isPrefixMatch_textOrEnd]
  rw [tabIndentThenSpaces, Regex.isPrefixMatch_alt_seq, Regex.isPrefixMatch_seq_seq,
    Regex.isPrefixMatch_seq_seq, Regex.isPrefixMatch_many_run htab hoptional,
    Regex.isPrefixMatch_many1_run htab hmany1, isPrefixMatch_optionalSpace hrest,
    Regex.isPrefixMatch_many1_run hrest hspace, isPrefixMatch_textOrEnd, and_iff_right hrest,
    ← and_assoc, ← or_and_right]
  exact and_congr_left fun _ => by omega

/-- An empty line matches, like any line that is indented by nothing. -/
theorem tab_eq_none_iff_match (line : List Char) (options : CheckOptions) :
    tab line options = none ↔ tabIndent.isPrefixMatch line = true ∨
      (options.spacesAfterTabs = true ∧ tabIndentThenSpaces.isPrefixMatch line = true) := by
  unfold tab
  cases line with
  | nil =>
    have hspace : ([] : List Char).head? ≠ some ' ' := nofun
    have htab : ([] : List Char).head? ≠ some '\t' := nofun
    have hindent := (isPrefixMatch_tabIndent (a := 0) (b := 0) hspace htab).2 (.inl rfl)
    simp only [List.replicate_zero, List.nil_append] at hindent
    simp [hindent]
  | cons c line => cases tabIndent.isPrefixMatch (c :: line) <;> simp

/-- **The numbers of leading tabs and of spaces behind them decide**, and what follows. -/
theorem tab_eq_none_iff (line : List Char) (options : CheckOptions) :
    let tabs := leading '\t' line
    let spaces := leading ' ' (behind '\t' line)
    let rest := behind ' ' (behind '\t' line)
    (tab line options = none ↔
      spaces = 0 ∨ (spaces = 1 ∧ StartsAtStar rest) ∨
        (options.spacesAfterTabs = true ∧ rest.head? ≠ some '\t' ∧ (1 ≤ tabs ∨ spaces ≤ 1))) ∧
    (tab line { options with spacesAfterTabs := false } = none →
      tab line { options with spacesAfterTabs := true } = none) := by
  intro tabs spaces rest
  have hspaces : List.replicate spaces ' ' ++ rest = behind '\t' line :=
    replicate_append_behind ' ' (behind '\t' line)
  have htab : (List.replicate spaces ' ' ++ rest).head? ≠ some '\t' := by
    rw [hspaces]
    exact head?_behind '\t' line
  have hrest : rest.head? ≠ some ' ' := head?_behind ' ' (behind '\t' line)
  have hindent := isPrefixMatch_tabIndent (a := tabs) hrest htab
  have hthen := isPrefixMatch_tabIndentThenSpaces (a := tabs) hrest htab
  rw [hspaces, replicate_append_behind] at hindent hthen
  simp only [tab_eq_none_iff_match, hindent, hthen]
  refine ⟨?_, ?_⟩
  · rw [← or_assoc, and_comm (b := rest.head? ≠ _)]
  · rintro (h | ⟨⟨⟩, -⟩)
    exact .inl h

end StyleCheck.Rule
