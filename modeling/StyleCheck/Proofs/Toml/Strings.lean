import StyleCheck.Toml.Writer

/-!
# Strings survive writing

**Theorem (`quoted?_write`).** A string that was written is read back with every character, and
with it the text that follows, as long as no quote comes next.

Each of the four forms has a reader of its own. A reader takes the text of one character after the
other (`basic?_escape`, `basicLines?_escape`), so on one line the theorem is an induction on the
characters. In the forms with three quotes a quote may stand for itself, and the reader looks at
the next two characters to tell it from the end. So the induction there needs where two quotes can
come next: only at the end, because no run is longer than two.
-/

namespace StyleCheck.Toml

variable {c x : Char} {text rest : List Char}

/-! ## Characters -/

/-- Besides line feeds, the characters that stand for themselves are no control characters. -/
theorem isPlain_eq (h : c ≠ '\n') : isPlain c = !isControl c := by
  by_cases htab : c = '\t'
  · rw [htab]
    rfl
  · have htab' : (c == '\t') = false := beq_eq_false_iff_ne.2 htab
    have hfeed' : (c == '\n') = false := beq_eq_false_iff_ne.2 h
    by_cases hlow : c.toNat < 0x20
    · simp [isPlain, isControl, bne, htab', hfeed', hlow, Nat.not_le_of_lt hlow]
    · simp [isPlain, isControl, bne, htab', hfeed', hlow, Nat.le_of_not_lt hlow]

theorem ne_of_isPlain (h : isPlain c) : c ≠ '\n' ∧ c ≠ '\r' := by
  constructor <;> rintro rfl <;> exact absurd h (by decide)

theorem numbered?_fourDigits (h : isControl c) : numbered? (fourDigits c.toNat) = some c := by
  have hall : ∀ n < 0x80, numbered? (fourDigits n) = some (Char.ofNat n) := by decide
  have hlow : c.toNat < 0x80 := by
    simp only [isControl, Bool.and_eq_true, Bool.or_eq_true, decide_eq_true_eq, beq_iff_eq] at h
    omega
  rw [hall _ hlow, Char.ofNat_toNat]

/-- The letters that are written for a character, and the character. -/
def letters : List (Char × Char) :=
  [('"', '"'), ('\\', '\\'), ('t', '\t'), ('n', '\n'), ('f', '\x0c'), ('r', '\r'), ('b', '\x08')]

/-- **The three ways to write a character**: by a letter, by its number, or as it is. -/
theorem escape_cases (c : Char) :
    (∃ x, escape c = ['\\', x] ∧ (x, c) ∈ letters) ∨
      (escape c = '\\' :: 'u' :: fourDigits c.toNat ∧ isControl c) ∨
      (escape c = [c] ∧ isPlain c ∧ c ≠ '"' ∧ c ≠ '\\') := by
  by_cases h : c ∈ letters.map Prod.snd
  · obtain ⟨⟨x, c⟩, hmem, rfl⟩ := List.mem_map.1 h
    have hall : ∀ p ∈ letters, escape p.2 = ['\\', p.1] := by decide
    exact .inl ⟨x, hall _ hmem, hmem⟩
  · simp only [letters, List.map_cons, List.map_nil, List.mem_cons, List.not_mem_nil, or_false,
      not_or] at h
    obtain ⟨hquote, hbackslash, htab, hfeed, hform, hreturn, hback⟩ := h
    have heq : escape c = if isControl c then '\\' :: 'u' :: fourDigits c.toNat else [c] := by
      simp only [escape, if_neg, *, not_false_eq_true]
    by_cases hcontrol : isControl c = true
    · exact .inr (.inl ⟨by rw [heq, if_pos hcontrol], hcontrol⟩)
    · have hplain : isPlain c = true := by
        rw [isPlain_eq hfeed, eq_false_of_ne_true hcontrol, Bool.not_false]
      exact .inr (.inr ⟨by rw [heq, if_neg hcontrol], hplain, hquote, hbackslash⟩)

/-! ## Basic strings on one line -/

theorem basic?_letter (h : (x, c) ∈ letters) :
    basic? ('\\' :: x :: rest) = consChar (some c) (basic? rest) := by
  have hall : ∀ p ∈ letters, basic? ('\\' :: p.1 :: rest) = consChar (some p.2) (basic? rest) := by
    simp only [letters, List.forall_mem_cons]
    refine ⟨?_, ?_, ?_, ?_, ?_, ?_, ?_, List.forall_mem_nil _⟩ <;> (rw [basic?.eq_def]; rfl)
  exact hall _ h

theorem basic?_number (n : Nat) (rest : List Char) :
    basic? ('\\' :: 'u' :: fourDigits n ++ rest) =
      consChar (numbered? (fourDigits n)) (basic? rest) :=
  rfl

theorem basic?_plain (h : isPlain c) (hquote : c ≠ '"') (hbackslash : c ≠ '\\') :
    basic? (c :: rest) = consChar (some c) (basic? rest) := by
  rw [basic?.eq_def]
  split <;> simp_all

theorem basic?_escape (c : Char) (rest : List Char) :
    basic? (escape c ++ rest) = consChar (some c) (basic? rest) := by
  rcases escape_cases c with ⟨x, heq, hx⟩ | ⟨heq, hcontrol⟩ | ⟨heq, hplain, hquote, hbackslash⟩
  · rw [heq]
    exact basic?_letter hx
  · rw [heq, basic?_number, numbered?_fourDigits hcontrol]
  · rw [heq]
    exact basic?_plain hplain hquote hbackslash

/-- **A basic string on one line is read back.** -/
theorem basic?_flatMap_escape (text rest : List Char) :
    basic? (text.flatMap escape ++ '"' :: rest) = some (text, rest) := by
  induction text with
  | nil => rfl
  | cons c text ih =>
    rw [List.flatMap_cons, List.append_assoc, basic?_escape, ih]
    rfl

/-! ## Basic strings on several lines -/

theorem basicLines?_letter (h : (x, c) ∈ letters) :
    basicLines? false ('\\' :: x :: rest) = consChar (some c) (basicLines? false rest) := by
  have hall : ∀ p ∈ letters,
      basicLines? false ('\\' :: p.1 :: rest) = consChar (some p.2) (basicLines? false rest) := by
    simp only [letters, List.forall_mem_cons]
    refine ⟨?_, ?_, ?_, ?_, ?_, ?_, ?_, List.forall_mem_nil _⟩ <;> (rw [basicLines?.eq_def]; rfl)
  exact hall _ h

theorem basicLines?_number (n : Nat) (rest : List Char) :
    basicLines? false ('\\' :: 'u' :: fourDigits n ++ rest) =
      consChar (numbered? (fourDigits n)) (basicLines? false rest) := by
  rw [basicLines?.eq_def]
  rfl

theorem basicLines?_plain (h : isPlain c) (hquote : c ≠ '"') (hbackslash : c ≠ '\\') :
    basicLines? false (c :: rest) = consChar (some c) (basicLines? false rest) := by
  obtain ⟨hfeed, hreturn⟩ := ne_of_isPlain h
  rw [basicLines?.eq_def]
  split <;> simp_all

theorem basicLines?_escape (c : Char) (rest : List Char) :
    basicLines? false (escape c ++ rest) = consChar (some c) (basicLines? false rest) := by
  rcases escape_cases c with ⟨x, heq, hx⟩ | ⟨heq, hcontrol⟩ | ⟨heq, hplain, hquote, hbackslash⟩
  · rw [heq]
    exact basicLines?_letter hx
  · rw [heq, basicLines?_number, numbered?_fourDigits hcontrol]
  · rw [heq]
    exact basicLines?_plain hplain hquote hbackslash

theorem basicLines?_lineFeed (rest : List Char) :
    basicLines? false ('\n' :: rest) = consChar (some '\n') (basicLines? false rest) := by
  rw [basicLines?.eq_def]
  rfl

/-- A quote stands for itself if no two quotes come next. -/
theorem basicLines?_quote (h : ∀ more, rest ≠ '"' :: '"' :: more) :
    basicLines? false ('"' :: rest) = consChar (some '"') (basicLines? false rest) := by
  simp [basicLines?, h, isPlain]

/-- What is left of the closing quotes belongs to the string. -/
theorem closing_replicate {quote : Char} {n : Nat} (hn : n ≤ 2) (hrest : rest.head? ≠ some quote) :
    closing quote (List.replicate n quote ++ rest) = (List.replicate n quote, rest) := by
  obtain rfl | rfl | rfl : n = 0 ∨ n = 1 ∨ n = 2 := by omega
  · cases rest with
    | nil => rfl
    | cons a rest =>
      have ha : a ≠ quote := fun h => hrest (congrArg some h)
      cases rest <;> simp [closing, ha]
  · cases rest with
    | nil => simp [closing]
    | cons a rest =>
      have ha : a ≠ quote := fun h => hrest (congrArg some h)
      simp [closing, ha]
  · simp [closing, List.replicate]

theorem escape_append_ne (c : Char) (rest more : List Char) : escape c ++ rest ≠ '"' :: more := by
  rcases escape_cases c with ⟨x, heq, -⟩ | ⟨heq, -⟩ | ⟨heq, -, hquote, -⟩ <;> simp_all

/-- Where a quote stands for itself, it comes from the text. -/
theorem escapeLines_cons_eq_quote {k : Nat} {more : List Char}
    (h : escapeLines k (c :: text) ++ rest = '"' :: more) :
    c = '"' ∧ k < 2 ∧ escapeLines (k + 1) text ++ rest = more := by
  by_cases hquote : c = '"'
  · subst hquote
    rw [escapeLines] at h
    by_cases hk : k < 2
    · rw [if_pos hk] at h
      exact ⟨rfl, hk, (List.cons.inj h).2⟩
    · rw [if_neg hk] at h
      exact absurd (List.cons.inj h).1 (by decide)
  · by_cases hfeed : c = '\n'
    · subst hfeed
      exact absurd (List.cons.inj h).1 (by decide)
    · simp only [escapeLines, List.append_assoc] at h
      exact absurd h (escape_append_ne c _ _)

/-- After a quote, two more come next only where the text ends. -/
theorem escapeLines_eq_quotes {k : Nat} {more : List Char} (hk : 0 < k)
    (h : escapeLines k text ++ '"' :: '"' :: '"' :: rest = '"' :: '"' :: more) :
    ∃ n ≤ 1, text = List.replicate n '"' ∧ more = List.replicate (n + 1) '"' ++ rest := by
  cases text with
  | nil => exact ⟨0, by decide, rfl, by simpa [escapeLines] using h.symm⟩
  | cons c text =>
    obtain ⟨rfl, -, h⟩ := escapeLines_cons_eq_quote h
    cases text with
    | nil => exact ⟨1, Nat.le_refl 1, rfl, by simpa [escapeLines] using h.symm⟩
    | cons c text =>
      obtain ⟨-, hlt, -⟩ := escapeLines_cons_eq_quote h
      omega

/-- **A basic string on several lines is read back**, wherever it starts in a run of quotes. -/
theorem basicLines?_escapeLines (hrest : rest.head? ≠ some '"') (k : Nat) (text : List Char) :
    basicLines? false (escapeLines k text ++ '"' :: '"' :: '"' :: rest) = some (text, rest) := by
  fun_induction escapeLines k text with
  | case1 k => exact congrArg some (closing_replicate (by decide : 0 ≤ 2) hrest)
  | case2 k text hk ih =>
    -- Two quotes that come next are those at the end, to which the last ones of the text add.
    by_cases hend : ∃ more,
        escapeLines (k + 1) text ++ '"' :: '"' :: '"' :: rest = '"' :: '"' :: more
    · obtain ⟨more, heq⟩ := hend
      obtain ⟨n, hn, rfl, rfl⟩ := escapeLines_eq_quotes k.succ_pos heq
      rw [List.cons_append, heq]
      exact congrArg some (closing_replicate (Nat.succ_le_succ hn) hrest)
    · rw [List.cons_append, basicLines?_quote (not_exists.1 hend), ih]
      rfl
  | case3 k text hk ih =>
    have hletter : ('"', '"') ∈ letters := by decide
    rw [List.cons_append, List.cons_append, basicLines?_letter hletter, ih]
    rfl
  | case4 k text ih =>
    rw [List.cons_append, basicLines?_lineFeed, ih]
    rfl
  | case5 k c text hquote hfeed ih =>
    rw [List.append_assoc, basicLines?_escape, ih]
    rfl

/-! ## Literal strings -/

theorem literal?_plain (h : isPlain c) (hquote : c ≠ '\'') :
    literal? (c :: rest) = consChar (some c) (literal? rest) := by
  rw [literal?.eq_def]
  split <;> simp_all

theorem literal?_append (htext : ∀ c ∈ text, isPlain c ∧ c ≠ '\'') :
    literal? (text ++ '\'' :: rest) = some (text, rest) := by
  induction text with
  | nil => rfl
  | cons c text ih =>
    rw [List.forall_mem_cons] at htext
    obtain ⟨⟨hplain, hquote⟩, htext⟩ := htext
    rw [List.cons_append, literal?_plain hplain hquote, ih htext]
    rfl

theorem literalLines?_lineFeed (rest : List Char) :
    literalLines? ('\n' :: rest) = consChar (some '\n') (literalLines? rest) := by
  rw [literalLines?.eq_def]
  rfl

theorem literalLines?_plain (h : isPlain c) (hquote : c ≠ '\'') :
    literalLines? (c :: rest) = consChar (some c) (literalLines? rest) := by
  obtain ⟨hfeed, hreturn⟩ := ne_of_isPlain h
  rw [literalLines?.eq_def]
  split <;> simp_all

theorem literalLines?_quote (h : ∀ more, rest ≠ '\'' :: '\'' :: more) :
    literalLines? ('\'' :: rest) = consChar (some '\'') (literalLines? rest) := by
  simp [literalLines?, h, isPlain]

theorem le_longestRun (c : Char) (k : Nat) (text : List Char) : k ≤ longestRun c k text := by
  fun_induction longestRun c k text with
  | case1 k => exact Nat.le_refl k
  | case2 k text ih => omega
  | case3 k x text hx ih => omega

/-- After a quote, two more come next only where the text ends. -/
theorem append_eq_quotes {k : Nat} {more : List Char} (hk : 0 < k)
    (hrun : longestRun '\'' k text ≤ 2)
    (h : text ++ '\'' :: '\'' :: '\'' :: rest = '\'' :: '\'' :: more) :
    ∃ n ≤ 1, text = List.replicate n '\'' ∧ more = List.replicate (n + 1) '\'' ++ rest := by
  cases text with
  | nil => exact ⟨0, by decide, rfl, by simpa using h.symm⟩
  | cons c text =>
    rw [List.cons_append, List.cons.injEq] at h
    obtain ⟨rfl, h⟩ := h
    cases text with
    | nil => exact ⟨1, Nat.le_refl 1, rfl, by simpa using h.symm⟩
    | cons c text =>
      rw [List.cons_append, List.cons.injEq] at h
      obtain ⟨rfl, h⟩ := h
      rw [longestRun, if_pos rfl, longestRun, if_pos rfl] at hrun
      have hle := le_longestRun '\'' (k + 1 + 1) text
      omega

/-- **A literal string on several lines is read back** if no run of quotes in it is too long. -/
theorem literalLines?_append {k : Nat} (hrest : rest.head? ≠ some '\'')
    (htext : ∀ c ∈ text, isControl c = false) (hrun : longestRun '\'' k text ≤ 2) :
    literalLines? (text ++ '\'' :: '\'' :: '\'' :: rest) = some (text, rest) := by
  induction text generalizing k with
  | nil => exact congrArg some (closing_replicate (by decide : 0 ≤ 2) hrest)
  | cons c text ih =>
    rw [List.forall_mem_cons] at htext
    obtain ⟨hcontrol, htext⟩ := htext
    rw [longestRun] at hrun
    by_cases hquote : c = '\''
    · subst hquote
      rw [if_pos rfl] at hrun
      by_cases hend : ∃ more, text ++ '\'' :: '\'' :: '\'' :: rest = '\'' :: '\'' :: more
      · obtain ⟨more, heq⟩ := hend
        obtain ⟨n, hn, rfl, rfl⟩ := append_eq_quotes k.succ_pos hrun heq
        rw [List.cons_append, heq]
        exact congrArg some (closing_replicate (Nat.succ_le_succ hn) hrest)
      · rw [List.cons_append, literalLines?_quote (not_exists.1 hend), ih htext hrun]
        rfl
    · rw [if_neg hquote] at hrun
      have hread := ih htext (Nat.le_trans (Nat.le_max_right _ _) hrun)
      by_cases hfeed : c = '\n'
      · rw [hfeed, List.cons_append, literalLines?_lineFeed, hread]
        rfl
      · have hplain : isPlain c = true := by
          rw [isPlain_eq hfeed, hcontrol, Bool.not_false]
        rw [List.cons_append, literalLines?_plain hplain hquote, hread]
        rfl

/-! ## The line of the opening quotes -/

theorem dropLineEnd_of_head (h : ∀ c ∈ text.head?, c ≠ '\n' ∧ c ≠ '\r') :
    dropLineEnd text = text := by
  unfold dropLineEnd
  split <;> simp_all

/-- The line end behind the opening quotes is left out, and nothing else is. -/
theorem dropLineEnd_lineStart {body : List Char}
    (h : '\n' ∉ text → ∀ c ∈ body.head?, c ≠ '\n' ∧ c ≠ '\r') :
    dropLineEnd (lineStart text ++ body) = body := by
  unfold lineStart
  by_cases hfeed : '\n' ∈ text
  · rw [if_pos (List.contains_iff_mem.2 hfeed)]
    rfl
  · rw [if_neg (mt List.contains_iff_mem.1 hfeed)]
    exact dropLineEnd_of_head (h hfeed)

theorem head_escape : ∀ x ∈ (escape c ++ rest).head?, x ≠ '\n' ∧ x ≠ '\r' := by
  rcases escape_cases c with ⟨x, heq, -⟩ | ⟨heq, -⟩ | ⟨heq, hplain, -⟩
  · simp [heq]
  · simp [heq]
  · simpa [heq] using ne_of_isPlain hplain

/-- The text of a string without line feeds starts with no line end. -/
theorem head_escapeLines (htext : '\n' ∉ text) :
    ∀ c ∈ (escapeLines 0 text ++ '"' :: rest).head?, c ≠ '\n' ∧ c ≠ '\r' := by
  cases text with
  | nil => simp [escapeLines]
  | cons c text =>
    have hfeed : c ≠ '\n' := fun h => htext (h ▸ List.mem_cons_self)
    by_cases hquote : c = '"'
    · simp [hquote, escapeLines]
    · simp only [escapeLines, List.append_assoc]
      exact head_escape

theorem head_append (htext : ∀ c ∈ text, isControl c = false) (hfeed : '\n' ∉ text) :
    ∀ c ∈ (text ++ '\'' :: rest).head?, c ≠ '\n' ∧ c ≠ '\r' := by
  cases text with
  | nil => simp
  | cons c text =>
    have hc : c ≠ '\n' := fun h => hfeed (h ▸ List.mem_cons_self)
    have hplain : isPlain c = true := by
      rw [isPlain_eq hc, htext c List.mem_cons_self, Bool.not_false]
    simpa using ne_of_isPlain hplain

/-! ## Strings of any form -/

theorem quoted?_basic (hrest : rest.head? ≠ some '"') :
    quoted? (basic text ++ rest) = some (text, rest) := by
  have heq : basic text ++ rest = '"' :: (text.flatMap escape ++ '"' :: rest) := by simp [basic]
  have hquotes : ∀ more, text.flatMap escape ++ '"' :: rest ≠ '"' :: '"' :: more := by
    intro more h
    cases text with
    | nil =>
      rw [List.flatMap_nil, List.nil_append, List.cons.injEq] at h
      exact hrest (h.2 ▸ rfl)
    | cons c text =>
      rw [List.flatMap_cons, List.append_assoc] at h
      exact escape_append_ne _ _ _ h
  rw [heq, ← basic?_flatMap_escape text rest]
  simp [quoted?]

theorem quoted?_literal (htext : ∀ c ∈ text, isPlain c ∧ c ≠ '\'')
    (hrest : rest.head? ≠ some '\'') : quoted? (literal text ++ rest) = some (text, rest) := by
  have heq : literal text ++ rest = '\'' :: (text ++ '\'' :: rest) := by simp [literal]
  have hquotes : ∀ more, text ++ '\'' :: rest ≠ '\'' :: '\'' :: more := by
    intro more h
    cases text with
    | nil =>
      rw [List.nil_append, List.cons.injEq] at h
      exact hrest (h.2 ▸ rfl)
    | cons c text =>
      rw [List.cons_append, List.cons.injEq] at h
      exact (htext c List.mem_cons_self).2 h.1
  rw [heq, ← literal?_append htext]
  simp [quoted?]

theorem quoted?_basicLines (hrest : rest.head? ≠ some '"') :
    quoted? (basicLines text ++ rest) = some (text, rest) := by
  have heq : basicLines text ++ rest = '"' :: '"' :: '"' ::
      (lineStart text ++ (escapeLines 0 text ++ '"' :: '"' :: '"' :: rest)) := by
    simp [basicLines]
  rw [heq]
  show basicLines? false (dropLineEnd _) = _
  rw [dropLineEnd_lineStart head_escapeLines, basicLines?_escapeLines hrest]

theorem quoted?_literalLines (hrest : rest.head? ≠ some '\'')
    (htext : ∀ c ∈ text, isControl c = false) (hrun : longestRun '\'' 0 text ≤ 2) :
    quoted? (literalLines text ++ rest) = some (text, rest) := by
  have heq : literalLines text ++ rest = '\'' :: '\'' :: '\'' ::
      (lineStart text ++ (text ++ '\'' :: '\'' :: '\'' :: rest)) := by
    simp [literalLines]
  rw [heq]
  show literalLines? (dropLineEnd _) = _
  rw [dropLineEnd_lineStart (head_append htext), literalLines?_append hrest htext hrun]

/-! ## Main result -/

/-- **A string that was written is read back.** -/
theorem quoted?_write (hrest : ∀ c ∈ rest.head?, c ≠ '"' ∧ c ≠ '\'') :
    quoted? (write text ++ rest) = some (text, rest) := by
  have hquote : rest.head? ≠ some '"' := fun h => (hrest _ h).1 rfl
  have hquote' : rest.head? ≠ some '\'' := fun h => (hrest _ h).2 rfl
  simp only [write]
  split
  · exact quoted?_basic hquote
  split
  next h =>
    simp only [Bool.and_eq_true, Bool.not_eq_true', List.any_eq_false, List.contains_eq_mem,
      decide_eq_false_iff_not, Bool.not_eq_true] at h
    obtain ⟨⟨hcontrol, hsingle⟩, hfeed⟩ := h
    refine quoted?_literal (fun c hc => ⟨?_, fun heq => hsingle (heq ▸ hc)⟩) hquote'
    rw [isPlain_eq fun heq => hfeed (heq ▸ hc), hcontrol c hc, Bool.not_false]
  split
  · exact quoted?_basicLines hquote
  split
  next h =>
    simp only [Bool.and_eq_true, Bool.not_eq_true', List.any_eq_false, decide_eq_true_eq,
      Bool.not_eq_true] at h
    exact quoted?_literalLines hquote' h.1 h.2
  split
  · exact quoted?_basicLines hquote
  · exact quoted?_basic hquote

end StyleCheck.Toml
