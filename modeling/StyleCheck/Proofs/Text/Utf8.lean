import StyleCheck.Text.Utf8

/-!
# UTF-8 is read back

**Theorem (`decode?_encode`, `encode_of_decode?`).** Strict decoding undoes encoding, and reads
nothing else.

The bytes of a character after the first one carry six bits each. Where the first byte and its
followers have the form of a character of two, three or four bytes, `next` reads that character
(`next_two`, `next_three`, `next_four`); what it puts together is the value that was divided by
powers of 64 when the bytes were made (`next_utf8EncodeChar`). The bounds on the first two bytes
leave out the values that would be written in another way, so the bytes that are read are those of
the character (`eq_of_next`).
-/

namespace StyleCheck.Text.Utf8

variable {n : Nat} {lead b c d : UInt8} {bytes rest : List UInt8}

/-! ## Bytes as numbers -/

theorem toNat_ofNat (h : n < 256) : (UInt8.ofNat n).toNat = n := UInt8.toNat_ofNat_of_lt' h

theorem ofNat_eq (h : b.toNat = n) : UInt8.ofNat n = b := by
  rw [← h, UInt8.ofNat_toNat]

theorem isContinuation_iff : isContinuation b = true ↔ 128 ≤ b.toNat ∧ b.toNat ≤ 191 := by
  simp [isContinuation, UInt8.le_iff_toNat_le]

/-- The second byte of three continues, and is neither overlong nor part of a surrogate. -/
theorem isSecondOfThree_iff : isSecondOfThree lead b = true ↔
    128 ≤ b.toNat ∧ b.toNat ≤ 191 ∧ (lead.toNat = 0xE0 → 0xA0 ≤ b.toNat) ∧
      (lead.toNat = 0xED → b.toNat ≤ 0x9F) := by
  simp only [isSecondOfThree, beq_iff_eq, ← UInt8.toNat_inj, isContinuation,
    UInt8.le_iff_toNat_le, UInt8.reduceToNat]
  split
  · simp only [Bool.and_eq_true, decide_eq_true_eq]
    omega
  · split <;> simp only [Bool.and_eq_true, decide_eq_true_eq] <;> omega

/-- The second byte of four continues, and is neither overlong nor above the last scalar value. -/
theorem isSecondOfFour_iff : isSecondOfFour lead b = true ↔
    128 ≤ b.toNat ∧ b.toNat ≤ 191 ∧ (lead.toNat = 0xF0 → 0x90 ≤ b.toNat) ∧
      (lead.toNat = 0xF4 → b.toNat ≤ 0x8F) := by
  simp only [isSecondOfFour, beq_iff_eq, ← UInt8.toNat_inj, isContinuation,
    UInt8.le_iff_toNat_le, UInt8.reduceToNat]
  split
  · simp only [Bool.and_eq_true, decide_eq_true_eq]
    omega
  · split <;> simp only [Bool.and_eq_true, decide_eq_true_eq] <;> omega

theorem isContinuation_ofNat (h : n < 64) : isContinuation (UInt8.ofNat (n + 128)) = true := by
  rw [isContinuation_iff, toNat_ofNat (by omega)]
  omega

theorem payload_ofNat (h : n < 64) : payload (UInt8.ofNat (n + 128)) = n := by
  rw [payload, toNat_ofNat (by omega)]
  omega

theorem toNat_val_ofNat (h : n.isValidChar) : (Char.ofNat n).val.toNat = n := by
  rw [Char.ofNat, dif_pos h]
  rfl

/-! ## Characters by their length -/

theorem next_one (h : lead.toNat < 128) :
    next lead rest = (some (Char.ofNat lead.toNat), rest) := by
  unfold next
  rw [if_pos (UInt8.lt_iff_toNat_lt.2 h)]

theorem next_two (h : 0xC2 ≤ lead.toNat ∧ lead.toNat ≤ 0xDF) (hb : isContinuation b = true) :
    next lead (b :: rest) = (some (Char.ofNat (lead.toNat % 32 * 64 + payload b)), rest) := by
  simp only [next, UInt8.lt_iff_toNat_lt, UInt8.le_iff_toNat_le, UInt8.reduceToNat]
  rw [if_neg (by omega), if_pos h, if_pos hb]

theorem next_three (h : 0xE0 ≤ lead.toNat ∧ lead.toNat ≤ 0xEF)
    (hb : isSecondOfThree lead b = true) (hc : isContinuation c = true) :
    next lead (b :: c :: rest) =
      (some (Char.ofNat (lead.toNat % 16 * 4096 + payload b * 64 + payload c)), rest) := by
  simp only [next, UInt8.lt_iff_toNat_lt, UInt8.le_iff_toNat_le, UInt8.reduceToNat]
  rw [if_neg (by omega), if_neg (by omega), if_pos h, if_pos hb, if_pos hc]

theorem next_four (h : 0xF0 ≤ lead.toNat ∧ lead.toNat ≤ 0xF4)
    (hb : isSecondOfFour lead b = true) (hc : isContinuation c = true)
    (hd : isContinuation d = true) :
    next lead (b :: c :: d :: rest) =
      (some (Char.ofNat
        (lead.toNat % 8 * 262144 + payload b * 4096 + payload c * 64 + payload d)), rest) := by
  simp only [next, UInt8.lt_iff_toNat_lt, UInt8.le_iff_toNat_le, UInt8.reduceToNat]
  rw [if_neg (by omega), if_neg (by omega), if_neg (by omega), if_pos h, if_pos hb, if_pos hc,
    if_pos hd]

theorem isSecondOfThree_ofNat {value : Nat} (hlow : 0x800 ≤ value) (hhigh : value < 0x10000)
    (hscalar : value < 0xD800 ∨ 0xDFFF < value) :
    isSecondOfThree (UInt8.ofNat (value / 4096 % 16 + 224)) (UInt8.ofNat (value / 64 % 64 + 128)) =
      true := by
  rw [isSecondOfThree_iff, toNat_ofNat (by omega), toNat_ofNat (by omega)]
  omega

theorem isSecondOfFour_ofNat {value : Nat} (hlow : 0x10000 ≤ value) (hhigh : value < 0x110000) :
    isSecondOfFour (UInt8.ofNat (value / 262144 % 8 + 240))
      (UInt8.ofNat (value / 4096 % 64 + 128)) = true := by
  rw [isSecondOfFour_iff, toNat_ofNat (by omega), toNat_ofNat (by omega)]
  omega

/-! ## Decoding what was encoded -/

theorem next_utf8EncodeChar (char : Char) (rest : List UInt8) :
    ∃ lead more, String.utf8EncodeChar char = lead :: more ∧
      next lead (more ++ rest) = (some char, rest) := by
  have hscalar : char.toNat < 0xD800 ∨ 0xDFFF < char.toNat ∧ char.toNat < 0x110000 := char.valid
  have hchar : Char.ofNat char.toNat = char := Char.ofNat_toNat char
  simp only [String.utf8EncodeChar, show char.val.toNat = char.toNat from rfl]
  generalize char.toNat = value at hscalar hchar
  by_cases hone : value ≤ 127
  · have hlead : (UInt8.ofNat value).toNat = value := toNat_ofNat (by omega)
    refine ⟨_, [], if_pos hone, ?_⟩
    rw [List.nil_append, next_one (by omega), hlead, hchar]
  rw [if_neg hone]
  by_cases htwo : value ≤ 2047
  · have hlead : (UInt8.ofNat (value / 64 % 32 + 192)).toNat = value / 64 % 32 + 192 :=
      toNat_ofNat (by omega)
    refine ⟨_, [_], if_pos htwo, ?_⟩
    rw [List.singleton_append, next_two (by omega) (isContinuation_ofNat (by omega)), hlead,
      payload_ofNat (by omega),
      show (value / 64 % 32 + 192) % 32 * 64 + value % 64 = value by omega,
      hchar]
  rw [if_neg htwo]
  by_cases hthree : value ≤ 65535
  · have hlead : (UInt8.ofNat (value / 4096 % 16 + 224)).toNat = value / 4096 % 16 + 224 :=
      toNat_ofNat (by omega)
    refine ⟨_, [_, _], if_pos hthree, ?_⟩
    rw [List.cons_append, List.singleton_append, next_three (by omega)
      (isSecondOfThree_ofNat (by omega) (by omega) (by omega)) (isContinuation_ofNat (by omega)),
      hlead, payload_ofNat (by omega), payload_ofNat (by omega),
      show (value / 4096 % 16 + 224) % 16 * 4096 + value / 64 % 64 * 64 + value % 64 = value by
        omega, hchar]
  · have hlead : (UInt8.ofNat (value / 262144 % 8 + 240)).toNat = value / 262144 % 8 + 240 :=
      toNat_ofNat (by omega)
    refine ⟨_, [_, _, _], if_neg hthree, ?_⟩
    rw [List.cons_append, List.cons_append, List.singleton_append, next_four (by omega)
      (isSecondOfFour_ofNat (by omega) (by omega)) (isContinuation_ofNat (by omega))
      (isContinuation_ofNat (by omega)),
      hlead, payload_ofNat (by omega), payload_ofNat (by omega), payload_ofNat (by omega),
      show (value / 262144 % 8 + 240) % 8 * 262144 + value / 4096 % 64 * 4096 +
        value / 64 % 64 * 64 + value % 64 = value by omega, hchar]

theorem decode?_of_next {char : Char} {more : List UInt8} (h : next lead rest = (some char, more)) :
    decode? (lead :: rest) = (decode? more).map (char :: ·) := by
  rw [decode?]
  split
  next found =>
    rw [h] at found
    cases found
    rfl
  next found =>
    rw [h] at found
    cases found

theorem decode?_of_next_none (h : (next lead rest).1 = none) : decode? (lead :: rest) = none := by
  rw [decode?]
  split
  next found =>
    rw [found] at h
    cases h
  · rfl

/-- **Decoding undoes encoding.** -/
theorem decode?_encode (text : List Char) : decode? (encode text) = some text := by
  induction text with
  | nil => rw [encode, List.flatMap_nil, decode?]
  | cons char text ih =>
    obtain ⟨lead, more, hbytes, hnext⟩ := next_utf8EncodeChar char (encode text)
    have hencode : encode (char :: text) = lead :: (more ++ encode text) := by
      rw [encode, List.flatMap_cons, hbytes]
      rfl
    rw [hencode, decode?_of_next hnext, ih]
    rfl

/-! ## Encoding what was decoded -/

theorem utf8EncodeChar_one (h : lead.toNat < 128) :
    String.utf8EncodeChar (Char.ofNat lead.toNat) = [lead] := by
  have hvalue : (Char.ofNat lead.toNat).val.toNat = lead.toNat :=
    toNat_val_ofNat (by unfold Nat.isValidChar; omega)
  simp only [String.utf8EncodeChar, hvalue]
  rw [if_pos (by omega), ofNat_eq rfl]

theorem utf8EncodeChar_two (h : 0xC2 ≤ lead.toNat ∧ lead.toNat ≤ 0xDF)
    (hb : isContinuation b = true) :
    String.utf8EncodeChar (Char.ofNat (lead.toNat % 32 * 64 + payload b)) = [lead, b] := by
  rw [isContinuation_iff] at hb
  unfold payload
  have hvalue : (Char.ofNat (lead.toNat % 32 * 64 + b.toNat % 64)).val.toNat =
      lead.toNat % 32 * 64 + b.toNat % 64 :=
    toNat_val_ofNat (by unfold Nat.isValidChar; omega)
  simp only [String.utf8EncodeChar, hvalue]
  rw [if_neg (by omega), if_pos (by omega), ofNat_eq (b := lead) (by omega),
    ofNat_eq (b := b) (by omega)]

theorem utf8EncodeChar_three (h : 0xE0 ≤ lead.toNat ∧ lead.toNat ≤ 0xEF)
    (hb : isSecondOfThree lead b = true) (hc : isContinuation c = true) :
    String.utf8EncodeChar (Char.ofNat (lead.toNat % 16 * 4096 + payload b * 64 + payload c)) =
      [lead, b, c] := by
  rw [isSecondOfThree_iff] at hb
  rw [isContinuation_iff] at hc
  unfold payload
  have hvalue : (Char.ofNat (lead.toNat % 16 * 4096 + b.toNat % 64 * 64 + c.toNat % 64)).val.toNat =
      lead.toNat % 16 * 4096 + b.toNat % 64 * 64 + c.toNat % 64 :=
    toNat_val_ofNat (by unfold Nat.isValidChar; omega)
  simp only [String.utf8EncodeChar, hvalue]
  rw [if_neg (by omega), if_neg (by omega), if_pos (by omega), ofNat_eq (b := lead) (by omega),
    ofNat_eq (b := b) (by omega), ofNat_eq (b := c) (by omega)]

theorem utf8EncodeChar_four (h : 0xF0 ≤ lead.toNat ∧ lead.toNat ≤ 0xF4)
    (hb : isSecondOfFour lead b = true) (hc : isContinuation c = true)
    (hd : isContinuation d = true) :
    String.utf8EncodeChar (Char.ofNat
      (lead.toNat % 8 * 262144 + payload b * 4096 + payload c * 64 + payload d)) =
        [lead, b, c, d] := by
  rw [isSecondOfFour_iff] at hb
  rw [isContinuation_iff] at hc hd
  unfold payload
  have hvalue : (Char.ofNat (lead.toNat % 8 * 262144 + b.toNat % 64 * 4096 + c.toNat % 64 * 64 +
      d.toNat % 64)).val.toNat =
        lead.toNat % 8 * 262144 + b.toNat % 64 * 4096 + c.toNat % 64 * 64 + d.toNat % 64 :=
    toNat_val_ofNat (by unfold Nat.isValidChar; omega)
  simp only [String.utf8EncodeChar, hvalue]
  rw [if_neg (by omega), if_neg (by omega), if_neg (by omega), ofNat_eq (b := lead) (by omega),
    ofNat_eq (b := b) (by omega), ofNat_eq (b := c) (by omega), ofNat_eq (b := d) (by omega)]

/-- The bytes from which a character is read are its bytes. -/
theorem eq_of_next {char : Char} {more : List UInt8} (h : next lead rest = (some char, more)) :
    lead :: rest = String.utf8EncodeChar char ++ more := by
  simp only [next, UInt8.lt_iff_toNat_lt, UInt8.le_iff_toNat_le, UInt8.reduceToNat] at h
  -- The cases are the lengths of a character; in each, a character is read in one branch only.
  split at h
  next hlead =>
    cases h
    rw [utf8EncodeChar_one hlead, List.singleton_append]
  split at h
  next hlead =>
    split at h
    next b rest =>
      split at h
      next hb =>
        cases h
        rw [utf8EncodeChar_two hlead hb, List.cons_append, List.singleton_append]
      · cases h
    · cases h
  split at h
  next hlead =>
    split at h
    next b c rest =>
      split at h
      next hb =>
        split at h
        next hc =>
          cases h
          rw [utf8EncodeChar_three hlead hb hc]
          rfl
        · cases h
      · cases h
    · split at h <;> cases h
    · cases h
  split at h
  next hlead =>
    split at h
    next b c d rest =>
      split at h
      next hb =>
        split at h
        next hc =>
          split at h
          next hd =>
            cases h
            rw [utf8EncodeChar_four hlead hb hc hd]
            rfl
          · cases h
        · cases h
      · cases h
    · split at h
      · split at h <;> cases h
      · cases h
    · split at h <;> cases h
    · cases h
  · cases h

/-- **Encoding undoes decoding.** -/
theorem encode_of_decode? {text : List Char} (h : decode? bytes = some text) :
    encode text = bytes := by
  fun_induction decode? bytes generalizing text with
  | case1 =>
    cases h
    rfl
  | case2 lead rest char more hnext ih =>
    obtain ⟨text, hmore, rfl⟩ := Option.map_eq_some_iff.1 h
    rw [encode, List.flatMap_cons, eq_of_next hnext, ← ih hmore]
    rfl
  | case3 => cases h

/-! ## ASCII and other characters -/

theorem utf8EncodeChar_ascii {char : Char} (h : char.toNat < 128) :
    String.utf8EncodeChar char = [UInt8.ofNat char.toNat] := by
  have hvalue : char.val.toNat ≤ 127 := Nat.le_of_lt_succ h
  simp only [String.utf8EncodeChar]
  rw [if_pos hvalue]
  rfl

theorem high_of_mem_utf8EncodeChar {char : Char} (h : 128 ≤ char.toNat)
    (hb : b ∈ String.utf8EncodeChar char) : 128 ≤ b.toNat := by
  have hscalar : char.toNat < 0xD800 ∨ 0xDFFF < char.toNat ∧ char.toNat < 0x110000 := char.valid
  simp only [String.utf8EncodeChar, show char.val.toNat = char.toNat from rfl] at hb
  generalize char.toNat = value at h hb hscalar
  rw [if_neg (by omega)] at hb
  have hbyte : ∃ n, 128 ≤ n ∧ n < 256 ∧ b = UInt8.ofNat n := by
    split at hb
    · simp only [List.mem_cons, List.not_mem_nil, or_false] at hb
      rcases hb with rfl | rfl <;> exact ⟨_, by omega, by omega, rfl⟩
    split at hb
    · simp only [List.mem_cons, List.not_mem_nil, or_false] at hb
      rcases hb with rfl | rfl | rfl <;> exact ⟨_, by omega, by omega, rfl⟩
    · simp only [List.mem_cons, List.not_mem_nil, or_false] at hb
      rcases hb with rfl | rfl | rfl | rfl <;> exact ⟨_, by omega, by omega, rfl⟩
  obtain ⟨n, hlow, hhigh, rfl⟩ := hbyte
  rwa [toNat_ofNat hhigh]

end StyleCheck.Text.Utf8
