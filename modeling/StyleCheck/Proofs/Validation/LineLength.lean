import StyleCheck.Charset.Basic
import StyleCheck.Proofs.Text.Utf8
import StyleCheck.Validation.Rule

/-!
# Which charsets are measured in characters

The length of a line is its number of characters if the name of its charset is `utf-8` or
`utf-8-bom`, the case of letters aside, and its number of bytes otherwise. UTF-8 has further names:
`utf8`, `UTF_8`, `unicode-1-1-utf-8` and so on, since names of charsets are compared without hyphens
and underscores.

**Theorem (`maxLineLength_eq_utf8_iff`).** A charset that is measured in characters is UTF-8. A name
measures a line like `utf-8` does, whatever the limit, exactly if it is one of the two names or the
line is ASCII. So the further names of UTF-8 measure in bytes, although the charset is the same.

The two comparisons of names are brought together character by character: where the lower-case form
is ASCII, it is the same in both (`lowerChar_eq`), and leaving out hyphens and underscores does not
depend on the case (`isCompared_asciiLower`). For the lengths it is enough that a character that is
no ASCII has two bytes or more (`lineLength_utf8_lt`).
-/

namespace StyleCheck.Rule

variable {c : Char} {name : String} {line : List Char} {charset other : Option String}

/-! ## Names -/

/-- The name is the one that `.editorconfig` files have for UTF-8, with or without a byte order
mark, the case of ASCII letters aside. -/
def IsCounted (name : String) : Prop :=
  name.toList.map asciiLower = "utf-8".toList ∨ name.toList.map asciiLower = "utf-8-bom".toList

theorem countsCharacters_iff : countsCharacters (some name) = true ↔ IsCounted name := by
  simp [countsCharacters, IsCounted]

theorem toNat_asciiLower (c : Char) :
    (asciiLower c).toNat = if 'A' ≤ c ∧ c ≤ 'Z' then c.toNat + 32 else c.toNat := by
  unfold asciiLower
  by_cases hupper : 'A' ≤ c ∧ c ≤ 'Z'
  · have hle : c.toNat ≤ 90 := hupper.2
    rw [if_pos hupper, if_pos hupper]
    exact Text.Utf8.toNat_val_ofNat (.inl (by omega))
  · rw [if_neg hupper, if_neg hupper]

/-- Where the lower-case form of a character is ASCII, it is that of its letter. -/
theorem lowerChar_eq (h : (asciiLower c).toNat < 0x80) : Text.lowerChar c = [asciiLower c] := by
  rw [toNat_asciiLower] at h
  have hascii : c.toNat < 0x80 := by
    split at h <;> omega
  simp only [Text.lowerChar, if_pos hascii, asciiLower]
  split <;> rfl

/-- The characters of a name that are compared. -/
def isCompared (c : Char) : Bool := c != '-' && c != '_'

theorem isCompared_iff : isCompared c = true ↔ c.toNat ≠ 45 ∧ c.toNat ≠ 95 := by
  simp [isCompared, ← Char.toNat_inj]

theorem isCompared_asciiLower (c : Char) : isCompared (asciiLower c) = isCompared c := by
  rw [Bool.eq_iff_iff, isCompared_iff, isCompared_iff, toNat_asciiLower]
  by_cases hupper : 'A' ≤ c ∧ c ≤ 'Z'
  · have hlow : 65 ≤ c.toNat := hupper.1
    have hhigh : c.toNat ≤ 90 := hupper.2
    rw [if_pos hupper]
    omega
  · rw [if_neg hupper]

/-- What is compared of a text whose lower-case form is ASCII. -/
theorem lowerEach_filter {chars : List Char} (h : ∀ c ∈ chars.map asciiLower, c.toNat < 0x80) :
    Text.lowerEach (chars.filter isCompared) = (chars.map asciiLower).filter isCompared := by
  induction chars with
  | nil => rfl
  | cons c chars ih =>
    obtain ⟨hc, hchars⟩ := List.forall_mem_cons.1 h
    rw [List.map_cons, List.filter_cons, List.filter_cons, isCompared_asciiLower, ← ih hchars]
    by_cases hcompared : isCompared c = true
    · rw [if_pos hcompared, if_pos hcompared]
      simp [Text.lowerEach, lowerChar_eq hc]
    · rw [if_neg hcompared, if_neg hcompared]

/-- The names of UTF-8, as they are compared. -/
theorem ofName?_eq_utf8_iff :
    Charset.ofName? name = some .utf8 ↔
      Charset.key name ∈ ["utf8", "utf8bom", "unicode11utf8"] := by
  constructor
  · intro h
    have hentries : ∀ entry ∈ Charset.keys, entry.2 = .utf8 →
        entry.1 = ["utf8", "utf8bom", "unicode11utf8"] := by
      decide
    obtain ⟨entry, hfind, hutf8⟩ := Option.map_eq_some_iff.1 h
    have hkey := List.find?_some hfind
    rw [← hentries entry (List.mem_of_find?_eq_some hfind) hutf8]
    simpa using hkey
  · intro h
    have hfirst : ["utf8", "utf8bom", "unicode11utf8"].contains (Charset.key name) = true :=
      List.contains_iff_mem.2 h
    unfold Charset.ofName? Charset.keys
    rw [List.find?_cons_of_pos]
    · rfl
    · exact hfirst

/-- **What is measured in characters is UTF-8.** -/
theorem IsCounted.ofName? (h : IsCounted name) : Charset.ofName? name = some .utf8 := by
  have hascii : (name.toList.map asciiLower).all (fun c => c.toNat < 0x80) = true := by
    rcases h with heq | heq <;> rw [heq] <;> decide
  have hkey : Charset.key name =
      String.ofList ((name.toList.map asciiLower).filter isCompared) := by
    refine congrArg String.ofList (lowerEach_filter ?_)
    intro c hc
    exact of_decide_eq_true (List.all_eq_true.1 hascii c hc)
  rw [ofName?_eq_utf8_iff, hkey]
  rcases h with heq | heq <;> rw [heq] <;> decide

/-! ## Lengths -/

theorem length_le_length_encode (line : List Char) :
    line.length ≤ (Text.Utf8.encode line).length := by
  induction line with
  | nil => exact Nat.le_refl 0
  | cons c line ih =>
    have hc := c.utf8Size_pos
    simp only [Text.Utf8.encode, List.flatMap_cons, List.length_append, List.length_cons,
      String.length_utf8EncodeChar] at ih ⊢
    omega

/-- A line has as many bytes as characters exactly if it is ASCII. -/
theorem length_encode_eq_iff :
    (Text.Utf8.encode line).length = line.length ↔ ∀ c ∈ line, c.toNat < 0x80 := by
  induction line with
  | nil => simp [Text.Utf8.encode]
  | cons c line ih =>
    have hc := c.utf8Size_pos
    have hone : c.utf8Size = 1 ↔ c.toNat < 0x80 := by
      rw [Char.utf8Size_eq_one_iff]
      exact Nat.lt_succ_iff.symm
    have hle := length_le_length_encode line
    rw [List.forall_mem_cons, ← ih, ← hone]
    simp only [Text.Utf8.encode, List.flatMap_cons, List.length_append, List.length_cons,
      String.length_utf8EncodeChar] at hle ⊢
    omega

theorem lineLength_of_counted (h : IsCounted name) :
    lineLength line (some name) = lineLength line (some "utf-8") := by
  have hcount := countsCharacters_iff.2 h
  have hutf8 : countsCharacters (some "utf-8") = true := by decide
  simp only [lineLength, if_pos hcount, if_pos hutf8]

theorem lineLength_of_not_counted (h : ¬ IsCounted name) :
    lineLength line (some name) = (Text.Utf8.encode line).length := by
  have hcount : ¬ countsCharacters (some name) = true := fun heq => h (countsCharacters_iff.1 heq)
  simp only [lineLength, if_neg hcount]

/-- A byte order mark is not ASCII, so an ASCII line is measured whole. -/
theorem lineLength_utf8_of_ascii (h : ∀ c ∈ line, c.toNat < 0x80) :
    lineLength line (some "utf-8") = line.length := by
  have hutf8 : countsCharacters (some "utf-8") = true := by decide
  simp only [lineLength, if_pos hutf8]
  split
  · exact absurd (h '\uFEFF' List.mem_cons_self) (by decide)
  · rfl

theorem lineLength_utf8_le (line : List Char) : lineLength line (some "utf-8") ≤ line.length := by
  have hutf8 : countsCharacters (some "utf-8") = true := by decide
  simp only [lineLength, if_pos hutf8]
  split
  · exact Nat.le_succ _
  · exact Nat.le_refl _

/-- A line that is not ASCII has more bytes than are counted for `utf-8`, and never a single one. -/
theorem lineLength_utf8_lt (h : ¬ ∀ c ∈ line, c.toNat < 0x80) :
    lineLength line (some "utf-8") < (Text.Utf8.encode line).length ∧
      1 < (Text.Utf8.encode line).length := by
  have hne : (Text.Utf8.encode line).length ≠ line.length := fun heq =>
    h (length_encode_eq_iff.1 heq)
  have hle := length_le_length_encode line
  have hlength := lineLength_utf8_le line
  have hpos : line.length ≠ 0 := by
    intro hzero
    apply h
    rw [List.eq_nil_of_length_eq_zero hzero]
    exact List.forall_mem_nil _
  omega

/-! ## Limits -/

theorem maxLineLength_congr (h : lineLength line charset = lineLength line other) (max : Nat) :
    maxLineLength line max charset = maxLineLength line max other := by
  simp only [maxLineLength, h]

/-- Two lengths are told apart by a limit, unless they are zero and one. -/
theorem exists_maxLineLength_ne (hlt : lineLength line charset < lineLength line other)
    (hone : 1 < lineLength line other) :
    ∃ max, maxLineLength line max charset = none ∧ maxLineLength line max other ≠ none := by
  refine ⟨lineLength line other - 1, ?_, ?_⟩
  · exact if_neg fun hlong => by omega
  · simp only [maxLineLength]
    rw [if_pos (by omega)]
    exact Option.some_ne_none _

/-- **The names that measure a line like `utf-8`.** Two of the names of UTF-8 do so for every line,
all others for ASCII lines only. -/
theorem maxLineLength_eq_utf8_iff (name : String) (line : List Char) :
    (Charset.ofName? name = some .utf8 ↔
      Charset.key name ∈ ["utf8", "utf8bom", "unicode11utf8"]) ∧
    (IsCounted name → Charset.ofName? name = some .utf8) ∧
    (¬ IsCounted name → ∀ max,
      maxLineLength line max (some name) = maxLineLength line max none) ∧
    ((∀ max, maxLineLength line max (some name) = maxLineLength line max (some "utf-8")) ↔
      IsCounted name ∨ ∀ c ∈ line, c.toNat < 0x80) := by
  refine ⟨ofName?_eq_utf8_iff, IsCounted.ofName?, ?_, ?_⟩
  · exact fun hcounted => maxLineLength_congr (lineLength_of_not_counted hcounted)
  by_cases hcounted : IsCounted name
  · exact iff_of_true (maxLineLength_congr (lineLength_of_counted hcounted)) (.inl hcounted)
  have hbytes : lineLength line (some name) = _ := lineLength_of_not_counted hcounted
  by_cases hascii : ∀ c ∈ line, c.toNat < 0x80
  · refine iff_of_true (maxLineLength_congr ?_) (.inr hascii)
    rw [hbytes, lineLength_utf8_of_ascii hascii]
    exact length_encode_eq_iff.2 hascii
  · refine iff_of_false ?_ (not_or.2 ⟨hcounted, hascii⟩)
    intro hall
    obtain ⟨hlt, hone⟩ := lineLength_utf8_lt hascii
    rw [← hbytes] at hlt hone
    obtain ⟨max, hshort, hlong⟩ := exists_maxLineLength_ne hlt hone
    exact hlong ((hall max).trans hshort)

/-- `utf8` is a name of UTF-8 by which a line is measured in bytes. -/
theorem not_maxLineLength_eq_utf8 :
    Charset.ofName? "utf8" = some .utf8 ∧
      maxLineLength ['é'] 1 (some "utf8") = some (.lineTooLong 2 1) ∧
      maxLineLength ['é'] 1 (some "utf-8") = none := by
  decide

end StyleCheck.Rule
