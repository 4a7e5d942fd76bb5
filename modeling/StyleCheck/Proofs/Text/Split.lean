import StyleCheck.Text.Basic

/-!
# Laws of cutting
-/

namespace StyleCheck.Text

variable {α : Type} [BEq α] [LawfulBEq α] {word text rest : List α}

theorem dropWord?_eq_some_iff : dropWord? word text = some rest ↔ text = word ++ rest := by
  induction word generalizing text with
  | nil => simp [dropWord?]
  | cons w word ih =>
    cases text with
    | nil => simp [dropWord?]
    | cons c text =>
      by_cases h : w = c
      · simp [dropWord?, h, ih]
      · have h' : c ≠ w := Ne.symm h
        simp [dropWord?, h, h']

theorem dropWord?_append (word rest : List α) : dropWord? word (word ++ rest) = some rest :=
  dropWord?_eq_some_iff.2 rfl

theorem eq_append_of_cutAtWord {before after : List α}
    (h : cutAtWord word text = some (before, after)) : text = before ++ (word ++ after) := by
  induction text generalizing before with
  | nil =>
    unfold cutAtWord at h
    split at h
    next hword =>
      cases h
      rw [List.isEmpty_iff.1 hword]
      rfl
    · cases h
  | cons c text ih =>
    unfold cutAtWord at h
    split at h
    next hdrop =>
      cases h
      rw [List.nil_append]
      exact dropWord?_eq_some_iff.1 hdrop
    · obtain ⟨⟨front, back⟩, hcut, heq⟩ := Option.map_eq_some_iff.1 h
      cases heq
      rw [ih hcut]
      rfl

/-- **A text has a word** if the word stands somewhere in it. -/
theorem hasWord_iff :
    hasWord word text = true ↔ ∃ before after, text = before ++ (word ++ after) := by
  unfold hasWord
  constructor
  · intro h
    obtain ⟨⟨before, after⟩, hcut⟩ := Option.isSome_iff_exists.1 h
    exact ⟨before, after, eq_append_of_cutAtWord hcut⟩
  · rintro ⟨before, after, rfl⟩
    induction before with
    | nil =>
      rw [List.nil_append]
      cases word with
      | nil => cases after <;> simp [cutAtWord, dropWord?]
      | cons c word =>
        rw [List.cons_append, cutAtWord, ← List.cons_append, dropWord?_append]
        rfl
    | cons c before ih =>
      rw [List.cons_append, cutAtWord]
      split
      · rfl
      · rw [Option.isSome_map, ih]

/-- A word of one kind of characters is in the front part of that kind if only such characters
stand before it. -/
theorem hasWord_takeWhile_iff {p : α → Bool} (hword : ∀ c ∈ word, p c = true) :
    hasWord word (text.takeWhile p) = true ↔
      ∃ before after, text = before ++ (word ++ after) ∧ ∀ c ∈ before, p c = true := by
  rw [hasWord_iff]
  constructor
  · rintro ⟨before, after, heq⟩
    refine ⟨before, after ++ text.dropWhile p, ?_, ?_⟩
    · calc text
        _ = text.takeWhile p ++ text.dropWhile p := List.takeWhile_append_dropWhile.symm
        _ = before ++ (word ++ (after ++ text.dropWhile p)) := by
          rw [heq]
          simp only [List.append_assoc]
    · intro c hc
      have hmem : c ∈ text.takeWhile p := heq ▸ List.mem_append_left _ hc
      exact List.all_eq_true.1 List.all_takeWhile c hmem
  · rintro ⟨before, after, rfl, hbefore⟩
    refine ⟨before, after.takeWhile p, ?_⟩
    rw [List.takeWhile_append_of_pos hbefore, List.takeWhile_append_of_pos hword]

omit [BEq α] [LawfulBEq α] in
theorem span_append {p : α → Bool} (hword : ∀ c ∈ word, p c = true)
    (hrest : ∀ c ∈ rest.head?, p c = false) :
    (word ++ rest).takeWhile p = word ∧ (word ++ rest).dropWhile p = rest := by
  rw [List.takeWhile_append_of_pos hword, List.dropWhile_append_of_pos hword]
  cases rest with
  | nil => simp
  | cons c rest => simp_all

omit [LawfulBEq α] in
theorem piecesAt_eq_splitOn (c : α) (text : List α) : piecesAt c text = text.splitOn c := by
  induction text with
  | nil => rfl
  | cons x text ih =>
    rw [piecesAt, List.splitOn_cons_eq_if_modifyHead, ← ih]
    split
    · rfl
    · cases hp : piecesAt c text with
      | nil => exact absurd (ih.symm.trans hp) (List.splitOn_ne_nil c text)
      | cons piece more => rfl

/-- No piece holds the character that it was cut at. -/
theorem not_mem_of_mem_piecesAt {c : α} {piece : List α} (h : piece ∈ piecesAt c text) :
    c ∉ piece := by
  induction text generalizing piece with
  | nil =>
    rw [List.mem_singleton.1 h]
    exact List.not_mem_nil
  | cons x text ih =>
    unfold piecesAt at h
    split at h
    · rcases List.mem_cons.1 h with rfl | h
      · exact List.not_mem_nil
      · exact ih h
    next hx =>
      have hx : c ≠ x := fun heq => hx (beq_iff_eq.2 heq.symm)
      cases hp : piecesAt c text with
      | nil => simp_all
      | cons first more =>
        rw [hp] at h ih
        rcases List.mem_cons.1 h with rfl | h
        · simp [hx, ih List.mem_cons_self]
        · exact ih (List.mem_cons_of_mem _ h)

theorem piecesAt_append_cons {c : α} (hword : c ∉ word) :
    piecesAt c (word ++ c :: rest) = word :: piecesAt c rest := by
  induction word with
  | nil => simp [piecesAt]
  | cons x word ih =>
    rw [List.mem_cons, not_or] at hword
    obtain ⟨hx, hword⟩ := hword
    have hx : (x == c) = false := beq_eq_false_iff_ne.2 (Ne.symm hx)
    simp [piecesAt, hx, ih hword]

omit [LawfulBEq α] in
theorem head?_piecesAt (c : α) (text : List α) :
    (piecesAt c text).head? = some (text.takeWhile (· != c)) := by
  induction text with
  | nil => rfl
  | cons x text ih =>
    obtain ⟨more, hmore⟩ := List.head?_eq_some_iff.1 ih
    rw [piecesAt, hmore]
    by_cases hx : x == c <;> simp [hx, bne]

theorem piecesAt_append (c : α) (text rest : List α) :
    piecesAt c (text ++ c :: rest) = piecesAt c text ++ piecesAt c rest := by
  induction text with
  | nil => simp [piecesAt]
  | cons x text ih =>
    rw [List.cons_append, piecesAt, piecesAt, ih]
    by_cases hx : x == c
    · simp [hx]
    · obtain ⟨more, hmore⟩ := List.head?_eq_some_iff.1 (head?_piecesAt c text)
      simp [hx, hmore]

theorem cutAt_append_cons {c : α} (hword : c ∉ word) :
    cutAt c (word ++ c :: rest) = some (word, rest) := by
  induction word with
  | nil => simp [cutAt]
  | cons x word ih =>
    rw [List.mem_cons, not_or] at hword
    obtain ⟨hx, hword⟩ := hword
    have hx : (x == c) = false := beq_eq_false_iff_ne.2 (Ne.symm hx)
    simp [cutAt, hx, ih hword]

theorem cutAt_eq_none {c : α} (h : c ∉ text) : cutAt c text = none := by
  induction text with
  | nil => rfl
  | cons x text ih =>
    rw [List.mem_cons, not_or] at h
    obtain ⟨hx, htext⟩ := h
    have hx : (x == c) = false := beq_eq_false_iff_ne.2 (Ne.symm hx)
    simp [cutAt, hx, ih htext]

omit [BEq α] [LawfulBEq α] in
theorem join_eq_intercalate (separator : List α) (texts : List (List α)) :
    join separator texts = separator.intercalate texts := by
  fun_induction join separator texts with
  | case1 => rfl
  | case2 text => simp
  | case3 text more hmore ih =>
    rw [ih, List.intercalate_cons_of_ne_nil hmore, List.append_assoc]

theorem replaceWith_of_not_mem {c : α} {image : List α} (h : c ∉ text) :
    replaceWith c image text = text := by
  unfold replaceWith
  induction text with
  | nil => rfl
  | cons x text ih =>
    rw [List.mem_cons, not_or] at h
    obtain ⟨hx, htext⟩ := h
    have hx : (x == c) = false := beq_eq_false_iff_ne.2 (Ne.symm hx)
    simp [hx, ih htext]

theorem not_mem_replaceWith {c : α} {image : List α} (h : c ∉ image) :
    c ∉ replaceWith c image text := by
  unfold replaceWith
  rw [List.mem_flatMap]
  rintro ⟨x, -, hx⟩
  split at hx
  · exact h hx
  next hne => exact hne (beq_iff_eq.2 (List.mem_singleton.1 hx).symm)

omit [BEq α] [LawfulBEq α] in
/-- A text is cut at its last `c` in one way only. -/
theorem append_cons_inj {c : α} {before before' after after' : List α} (hafter : c ∉ after)
    (hafter' : c ∉ after') :
    before ++ c :: after = before' ++ c :: after' ↔ before = before' ∧ after = after' := by
  -- With something between the two places, one text would hold a `c` behind its last one.
  have hcut : ∀ {between after after' : List α}, c ∉ after → c :: after = between ++ c :: after' →
      between = [] ∧ after = after' := by
    intro between after after' hafter h
    cases between with
    | nil => exact ⟨rfl, (List.cons.inj h).2⟩
    | cons x between =>
      rw [(List.cons.inj h).2] at hafter
      exact absurd (List.mem_append_right between List.mem_cons_self) hafter
  constructor
  · intro h
    rcases List.append_eq_append_iff.1 h with ⟨between, rfl, hrest⟩ | ⟨between, rfl, hrest⟩
    · obtain ⟨rfl, rfl⟩ := hcut hafter hrest
      exact ⟨(List.append_nil _).symm, rfl⟩
    · obtain ⟨rfl, rfl⟩ := hcut hafter' hrest
      exact ⟨List.append_nil _, rfl⟩
  · rintro ⟨rfl, rfl⟩
    rfl

end StyleCheck.Text
