import StyleCheck.Proofs.Text.Numeral
import StyleCheck.Proofs.Text.Split
import StyleCheck.Proofs.Toml.Strings
import StyleCheck.Toml.Statement

/-!
# Values survive writing

Strings, lists of strings, truth values and numbers are read back from the text that is written
for them, where a line ends behind it (`Shows`). The number of steps that a reader may take is at
least the length of the text, and that is always enough.

A string tells by its first character where it ends (`quoted?_write`). A scalar ends where the
first character comes that no scalar has, and what it is depends on its characters: those of a
number are digits, and the first one is no zero in front of others.
-/

namespace StyleCheck.Toml

variable {c : Char} {cs text word rest : List Char} {value : Value} {depth fuel : Nat}

/-! ## Starts of tokens -/

/-- Whether a token can start with the character: it is no blank, ends no line and opens no
comment. -/
def isTokenStart (c : Char) : Bool :=
  c != ' ' && c != '\t' && c != '\n' && c != '\r' && c != '#'

theorem isTokenStart_iff :
    isTokenStart c ↔ c ≠ ' ' ∧ c ≠ '\t' ∧ c ≠ '\n' ∧ c ≠ '\r' ∧ c ≠ '#' := by
  simp [isTokenStart, and_assoc]

/-- Nothing is left out in front of the word. -/
def StartsToken (word : List Char) : Prop := ∃ c cs, word = c :: cs ∧ isTokenStart c

namespace StartsToken

theorem length_pos (h : StartsToken word) : 0 < word.length := by
  obtain ⟨c, cs, rfl, -⟩ := h
  exact Nat.succ_pos _

theorem skipBlanks_append (h : StartsToken word) (rest : List Char) :
    skipBlanks (word ++ rest) = word ++ rest := by
  obtain ⟨c, cs, rfl, hc⟩ := h
  obtain ⟨hspace, htab, -⟩ := isTokenStart_iff.1 hc
  simp [skipBlanks, hspace, htab]

theorem skipFiller_append (h : StartsToken word) (rest : List Char) :
    skipFiller false (word ++ rest) = word ++ rest := by
  obtain ⟨c, cs, rfl, hc⟩ := h
  obtain ⟨hspace, htab, hfeed, hreturn, hcomment⟩ := isTokenStart_iff.1 hc
  rw [List.cons_append, skipFiller.eq_def]
  split <;> simp_all

end StartsToken

/-! ## Values at the end of a line -/

/-- The text is read as the value where a line ends behind it. -/
def Shows (text : List Char) (value : Value) : Prop :=
  ∀ fuel rest, text.length ≤ fuel →
    value? maxDepth fuel (skipBlanks (text ++ '\n' :: rest)) = some (value, '\n' :: rest)

/-! ## Scalars -/

theorem ne_of_isScalarChar {d : Char} (h : isScalarChar c) (hd : isScalarChar d = false) :
    c ≠ d := by
  rintro rfl
  rw [hd] at h
  cases h

theorem isTokenStart_of_isScalarChar (h : isScalarChar c) : isTokenStart c :=
  isTokenStart_iff.2 ⟨ne_of_isScalarChar h rfl, ne_of_isScalarChar h rfl,
    ne_of_isScalarChar h rfl, ne_of_isScalarChar h rfl, ne_of_isScalarChar h rfl⟩

theorem scalar?_append (hword : ∀ c ∈ word, isScalarChar c) :
    scalar? (word ++ '\n' :: rest) = (scalarValue? word).map (·, '\n' :: rest) := by
  have htake : (word ++ '\n' :: rest).takeWhile isScalarChar = word := by
    refine (Text.span_append hword fun c hc => ?_).1
    rw [← Option.some.inj hc]
    decide
  simp [scalar?, htake]

/-- What starts with no quote and no bracket is read as a scalar. -/
theorem value?_scalar (h : isScalarChar c) :
    value? depth (fuel + 1) (c :: rest) = scalar? (c :: rest) := by
  have hquote := ne_of_isScalarChar h (d := '"') rfl
  have hsingle := ne_of_isScalarChar h (d := '\'') rfl
  have hbracket := ne_of_isScalarChar h (d := '[') rfl
  have hbrace := ne_of_isScalarChar h (d := '\x7b') rfl
  rw [value?] <;> simp_all

theorem shows_scalar (hne : word ≠ []) (hword : ∀ c ∈ word, isScalarChar c)
    (hvalue : scalarValue? word = some value) : Shows word value := by
  intro fuel rest hfuel
  obtain ⟨c, cs, rfl⟩ := List.exists_cons_of_ne_nil hne
  have hc := hword c List.mem_cons_self
  have hstart : StartsToken (c :: cs) := ⟨c, cs, rfl, isTokenStart_of_isScalarChar hc⟩
  obtain ⟨fuel, rfl⟩ := Nat.exists_eq_add_one.2 (Nat.zero_lt_of_lt hfuel)
  rw [hstart.skipBlanks_append, List.cons_append, value?_scalar hc, ← List.cons_append,
    scalar?_append hword, hvalue]
  rfl

theorem shows_boolean (b : Bool) :
    Shows (if b then "true" else "false").toList (.boolean b) := by
  cases b <;> exact shows_scalar (by decide) (List.all_eq_true.1 (by decide)) (by rfl)

/-! ## Numbers -/

/-- The decimal digits are among the hexadecimal ones. -/
theorem digitIn?_ten (c : Char) : digitIn? 10 c = Text.digit? c := by
  unfold digitIn? hexDigit? Text.digit?
  by_cases hdecimal : '0' ≤ c ∧ c ≤ '9'
  · have hhigh : c.toNat ≤ 57 := hdecimal.2
    have hten : c.toNat - 48 < 10 := by omega
    rw [if_pos hdecimal, if_pos hdecimal, Option.filter_some, if_pos (decide_eq_true hten)]
    rfl
  · rw [if_neg hdecimal, if_neg hdecimal]
    by_cases hlower : 'a' ≤ c ∧ c ≤ 'f'
    · have hlow : 97 ≤ c.toNat := hlower.1
      have hten : ¬c.toNat - 87 < 10 := by omega
      rw [if_pos hlower, Option.filter_some, if_neg (by simpa using hten)]
    · rw [if_neg hlower]
      by_cases hupper : 'A' ≤ c ∧ c ≤ 'F'
      · have hlow : 65 ≤ c.toNat := hupper.1
        have hten : ¬c.toNat - 55 < 10 := by omega
        rw [if_pos hupper, Option.filter_some, if_neg (by simpa using hten)]
      · rw [if_neg hupper]
        rfl

theorem foldlM_digitIn?_ten (n : Nat) (cs : List Char) :
    cs.foldlM (fun n c => (digitIn? 10 c).map (10 * n + ·)) n = Text.digitsFrom n cs := by
  induction cs generalizing n with
  | nil => rfl
  | cons c cs ih =>
    rw [List.foldlM_cons, digitIn?_ten, Text.digitsFrom]
    cases Text.digit? c with
    | none => rfl
    | some d => exact ih (10 * n + d)

/-- **Numbers in base ten are decimal numerals** that underscores may group. -/
theorem digits?_ten (cs : List Char) : digits? 10 cs = Text.digits? (cs.filter (· != '_')) := by
  simp only [digits?, Text.digits?, foldlM_digitIn?_ten]

/-- A number is written without a zero in front. -/
theorem head?_toDigits {n : Nat} (hn : 0 < n) : (Nat.toDigits 10 n).head? ≠ some '0' := by
  induction n using Nat.strongRecOn with
  | ind n ih =>
    rw [Nat.toDigits_eq_if (by decide)]
    split
    next hlt =>
      have hall : ∀ d < 10, 0 < d → [Nat.digitChar d].head? ≠ some '0' := by decide
      exact hall n hlt hn
    next hle =>
      have hne : Nat.toDigits 10 (n / 10) ≠ [] := Nat.toDigits_ne_nil
      have hhead := ih (n / 10) (by omega) (by omega)
      obtain ⟨d, digits, heq⟩ := List.exists_cons_of_ne_nil hne
      rw [heq] at hhead ⊢
      exact hhead

theorem hasLeadingZero_toString (n : Nat) : hasLeadingZero (toString n).toList = false := by
  rw [Nat.toString_eq_ofList_toDigits, String.toList_ofList]
  rcases Nat.eq_zero_or_pos n with rfl | hn
  · rfl
  · simp [hasLeadingZero, head?_toDigits hn]

theorem isGrouped_of_not_mem {digit : Char → Bool} (h : '_' ∉ cs) : isGrouped digit cs = true := by
  simp [isGrouped, h]

theorem isDigit_of_charIsDigit (h : c.isDigit = true) : isDigit c = true := by
  obtain ⟨hlow, hhigh⟩ := Char.isDigit_iff_toNat.1 h
  exact Bool.and_eq_true_iff.2 ⟨decide_eq_true hlow, decide_eq_true hhigh⟩

theorem isScalarChar_of_isDigit (h : c.isDigit = true) : isScalarChar c = true := by
  have hall : "=[],\x7b\x7d \t#\r\n'\"".toList.all (!·.isDigit) = true := by decide
  refine List.all_eq_true.2 fun d hd => bne_iff_ne.2 ?_
  rintro rfl
  have hdigit := List.all_eq_true.1 hall _ hd
  rw [h] at hdigit
  cases hdigit

theorem number?_digits (hdigits : ∀ c ∈ cs, c.isDigit = true) (hzero : hasLeadingZero cs = false) :
    number? cs cs = some (.integer (decimal? cs)) := by
  have hafter : cs.dropWhile isDigit = [] := by
    rw [← List.append_nil cs]
    exact (Text.span_append (fun c hc => isDigit_of_charIsDigit (hdigits c hc)) (by simp)).2
  have hgrouped : isGrouped isAnyDigit cs = true :=
    isGrouped_of_not_mem fun h => absurd (hdigits _ h) (by decide)
  simp [number?, hafter, hzero, hgrouped]

theorem decimal?_digits (hdigits : ∀ c ∈ cs, c.isDigit = true) :
    decimal? cs = (Text.digits? cs).map Int.ofNat := by
  have hgroups : cs.filter (· != '_') = cs :=
    List.filter_eq_self.2 fun c hc => bne_iff_ne.2 fun h => absurd (hdigits c hc) (h ▸ by decide)
  have hplus : '+' ∉ cs := fun h => absurd (hdigits _ h) (by decide)
  have hminus : '-' ∉ cs := fun h => absurd (hdigits _ h) (by decide)
  have hread : digits? 10 cs = Text.digits? cs := by rw [digits?_ten, hgroups]
  unfold decimal?
  split
  · exact absurd List.mem_cons_self hplus
  · exact absurd List.mem_cons_self hminus
  · rw [hread]

/-- **What consists of digits is a number**, and nothing else that a scalar can be. -/
theorem scalarValue?_digits (hne : cs ≠ []) (hdigits : ∀ c ∈ cs, c.isDigit = true)
    (hzero : hasLeadingZero cs = false) :
    scalarValue? cs = some (.integer (decimal? cs)) := by
  have hnot : ∀ d, d.isDigit = false → d ∉ cs := fun d hd h => by
    rw [hdigits d h] at hd
    cases hd
  -- A word or a prefix holds a character that is no digit.
  have htrue : cs ≠ "true".toList := by
    rintro rfl
    exact hnot 't' rfl (by decide)
  have hfalse : cs ≠ "false".toList := by
    rintro rfl
    exact hnot 'f' rfl (by decide)
  have hunsigned : dropSign cs = cs := by
    unfold dropSign
    split
    · exact absurd List.mem_cons_self (hnot '+' rfl)
    · exact absurd List.mem_cons_self (hnot '-' rfl)
    · rfl
  have hinf : ¬(cs = "inf".toList ∨ cs = "nan".toList) := by
    rintro (rfl | rfl)
    · exact hnot 'i' rfl (by decide)
    · exact hnot 'a' rfl (by decide)
  rw [scalarValue?, if_neg htrue, if_neg hfalse, hunsigned, if_neg hinf]
  split
  · exact absurd (List.mem_cons_of_mem _ List.mem_cons_self) (hnot 'x' rfl)
  · exact absurd (List.mem_cons_of_mem _ List.mem_cons_self) (hnot 'o' rfl)
  · exact absurd (List.mem_cons_of_mem _ List.mem_cons_self) (hnot 'b' rfl)
  next c rest _ _ _ =>
    have hc : isDigit c = true := isDigit_of_charIsDigit (hdigits c List.mem_cons_self)
    rw [hc, Bool.true_or, if_pos rfl, number?_digits hdigits hzero]
  · exact absurd rfl hne

theorem shows_number (n : Nat) : Shows (toString n).toList (.integer (some n)) := by
  have hdigits : ∀ c ∈ (toString n).toList, c.isDigit = true := fun c =>
    Text.isDigit_of_mem_toString
  have hne : (toString n).toList ≠ [] := (Text.isDigit_of_mem_digits? (Text.digits?_toString n)).1
  refine shows_scalar hne (fun c hc => isScalarChar_of_isDigit (hdigits c hc)) ?_
  rw [scalarValue?_digits hne hdigits (hasLeadingZero_toString n), decimal?_digits hdigits,
    Text.digits?_toString]
  rfl

/-! ## Strings -/

theorem write_eq_cons (text : List Char) :
    ∃ q body, write text = q :: body ∧ (q = '"' ∨ q = '\'') := by
  unfold write
  simp only [basic, literal, basicLines, literalLines]
  split
  · exact ⟨_, _, rfl, .inl rfl⟩
  split
  · exact ⟨_, _, rfl, .inr rfl⟩
  split
  · exact ⟨_, _, rfl, .inl rfl⟩
  split
  · exact ⟨_, _, rfl, .inr rfl⟩
  split
  · exact ⟨_, _, rfl, .inl rfl⟩
  · exact ⟨_, _, rfl, .inl rfl⟩

theorem write_append_ne (text rest : List Char) {more : List Char} (hdouble : c ≠ '"')
    (hsingle : c ≠ '\'') : write text ++ rest ≠ c :: more := by
  intro h
  obtain ⟨q, body, heq, hq⟩ := write_eq_cons text
  rw [heq, List.cons_append, List.cons.injEq] at h
  rcases hq with rfl | rfl
  · exact hdouble h.1.symm
  · exact hsingle h.1.symm

theorem value?_write (s : String) (hrest : ∀ c ∈ rest.head?, c ≠ '"' ∧ c ≠ '\'') :
    value? depth (fuel + 1) (write s.toList ++ rest) = some (.string s, rest) := by
  have hread : quoted? (write s.toList ++ rest) = some (s.toList, rest) := quoted?_write hrest
  obtain ⟨q, body, heq, hq⟩ := write_eq_cons s.toList
  rw [heq, List.cons_append] at hread ⊢
  rcases hq with rfl | rfl <;> simp [value?, hread]

theorem startsToken_write (text : List Char) : StartsToken (write text) := by
  obtain ⟨q, body, heq, hq⟩ := write_eq_cons text
  exact ⟨q, body, heq, by rcases hq with rfl | rfl <;> rfl⟩

theorem shows_string (s : String) : Shows (write s.toList) (.string s) := by
  intro fuel rest hfuel
  have hstart := startsToken_write s.toList
  obtain ⟨fuel, rfl⟩ := Nat.exists_eq_add_one.2 (Nat.lt_of_lt_of_le hstart.length_pos hfuel)
  rw [hstart.skipBlanks_append]
  exact value?_write s (by simp)

/-! ## Lists of strings -/

theorem items?_comma (s : String) (rest : List Char) :
    items? depth (fuel + 2) (write s.toList ++ ',' :: rest) =
      (items? depth (fuel + 1) (skipFiller false rest)).map fun (items, rest) =>
        (.string s :: items, rest) := by
  have hvalue : value? depth (fuel + 1) (write s.toList ++ ',' :: rest) =
      some (.string s, ',' :: rest) := value?_write s (by simp)
  have hcomma : skipFiller false (',' :: rest) = ',' :: rest := rfl
  rw [items?]
  · simp only [hvalue, hcomma, Option.bind_eq_bind, Option.bind_some]
    exact Option.map_eq_bind.symm
  · exact fun more => write_append_ne _ _ (by decide) (by decide)

theorem items?_last (s : String) (rest : List Char) :
    items? depth (fuel + 2) (write s.toList ++ ']' :: rest) = some ([.string s], rest) := by
  have hvalue : value? depth (fuel + 1) (write s.toList ++ ']' :: rest) =
      some (.string s, ']' :: rest) := value?_write s (by simp)
  have hlast : skipFiller false (']' :: rest) = ']' :: rest := rfl
  rw [items?]
  · simp only [hvalue, hlast, Option.bind_eq_bind, Option.bind_some]
  · exact fun more => write_append_ne _ _ (by decide) (by decide)

/-- A string of a list on a line of its own. -/
def itemLine (s : String) : List Char := "    ".toList ++ (write s.toList ++ ",\n".toList)

theorem length_le_length_lines (list : List String) :
    list.length ≤ (list.flatMap itemLine).length := by
  induction list with
  | nil => exact Nat.le_refl 0
  | cons s list ih =>
    have hpos : 0 < (itemLine s).length := by simp [itemLine]
    rw [List.flatMap_cons, List.length_append, List.length_cons]
    omega

/-- **The items of a list on several lines.** -/
theorem items?_lines (list : List String) (hfuel : list.length < fuel) :
    items? depth fuel (skipFiller false (list.flatMap itemLine ++ ']' :: rest)) =
      some (list.map .string, rest) := by
  obtain ⟨fuel, rfl⟩ := Nat.exists_eq_add_one.2 (Nat.zero_lt_of_lt hfuel)
  induction list generalizing fuel with
  | nil => simp [skipFiller, items?]
  | cons s list ih =>
    have hfuel : list.length < fuel := Nat.lt_of_succ_lt_succ hfuel
    obtain ⟨fuel, rfl⟩ := Nat.exists_eq_add_one.2 (Nat.zero_lt_of_lt hfuel)
    have hfirst : skipFiller false ((s :: list).flatMap itemLine ++ ']' :: rest) =
        write s.toList ++ ',' :: '\n' :: (list.flatMap itemLine ++ ']' :: rest) := by
      simp only [List.flatMap_cons, itemLine, List.append_assoc]
      exact (startsToken_write s.toList).skipFiller_append _
    have hfeed : ∀ more, skipFiller false ('\n' :: more) = skipFiller false more := fun more => rfl
    rw [hfirst, items?_comma, hfeed, ih fuel hfuel]
    rfl

theorem shows_array {items : List Value}
    (h : ∀ fuel rest, text.length < fuel →
      items? (maxDepth - 1) fuel (skipFiller false (text ++ ']' :: rest)) = some (items, rest)) :
    Shows ('[' :: (text ++ [']'])) (.array items) := by
  intro fuel rest hfuel
  obtain ⟨fuel, rfl⟩ := Nat.exists_eq_add_one.2 (Nat.zero_lt_of_lt hfuel)
  have hlength : text.length < fuel := by
    simp only [List.length_cons, List.length_append, List.length_nil] at hfuel
    omega
  have hitems := h fuel ('\n' :: rest) hlength
  rw [List.cons_append, List.append_assoc, List.singleton_append]
  show (items? (maxDepth - 1) fuel (skipFiller false _)).map _ = _
  rw [hitems]
  rfl

end StyleCheck.Toml
