import StyleCheck.Charset.Detection
import StyleCheck.Proofs.Text.Utf16
import StyleCheck.Proofs.Text.Utf32
import StyleCheck.Proofs.Text.Utf8

/-!
# Decoding does not depend on the guess

Two kinds of bytes have one text, whatever charset a guess from their characters proposes.

**Theorem (`decodeWith_utf8`).** Bytes that are UTF-8 are decoded as UTF-8, or are binary if their
text holds a forbidden control character. Of any bytes, only those with a forbidden control byte
are binary, and no decoded text holds a forbidden control character.

**Theorem (`decodeWith_encode_marked`).** A text behind a byte order mark, in any of the Unicode
encodings, is decoded as that text in that encoding.

Both go by the charset that is selected. A byte order mark leaves one candidate
(`select?_of_marked`). Without one, bytes that are UTF-8 have a candidate of full confidence, which
no guess reaches (`select?_of_utf8`). That the marks do not get in each other's way is seen in the
bytes: no mark but that of UTF-8 starts bytes that are UTF-8 (`marked?_of_utf8`), and the mark of
UTF-16 is taken for that of UTF-32 only before the character zero (`Utf16.encode_ne_zeros`).
-/

namespace StyleCheck.Charset

/-! ## Unicode encodings -/

/-- The encodings of all characters that have a byte order mark. -/
inductive Unicode
  | utf8
  | utf16 (order : Text.ByteOrder)
  | utf32 (order : Text.ByteOrder)
  deriving DecidableEq, Repr

namespace Unicode

/-- The encoding as a charset. -/
def charset : Unicode → Charset
  | utf8 => .utf8
  | utf16 order => .utf16 order
  | utf32 order => .utf32 order

/-- The bytes of a text. -/
def encode : Unicode → List Char → List UInt8
  | utf8, text => Text.Utf8.encode text
  | utf16 order, text => Text.Utf16.encode order text
  | utf32 order, text => Text.Utf32.encode order text

theorem decode?_encode (encoding : Unicode) (text : List Char) :
    encoding.charset.decode? (encoding.encode text) = some text := by
  cases encoding with
  | utf8 => exact Text.Utf8.decode?_encode text
  | utf16 order => exact Text.Utf16.decode?_encode order text
  | utf32 order => exact Text.Utf32.decode?_encode order text

theorem ofName?_name (encoding : Unicode) :
    Charset.ofName? encoding.charset.name = some encoding.charset := by
  cases encoding with
  | utf8 => rfl
  | utf16 order => cases order <;> rfl
  | utf32 order => cases order <;> rfl

end Unicode

/-! ## The selected charset -/

variable {guess : Guess} {bytes mark rest : List UInt8} {text : List Char} {charset : Charset}

theorem select?_of_marked {encoding : Unicode} (h : marked? bytes = some encoding.charset) :
    select? (candidates guess bytes) = some encoding.charset := by
  unfold candidates
  rw [h]
  simp [select?, encoding.ofName?_name]

/-- Without a mark, UTF-8 has more confidence than any guess. -/
theorem select?_of_utf8 (hmark : marked? bytes = none)
    (htext : Text.Utf8.decode? bytes = some text) :
    select? (candidates guess bytes) = some .utf8 := by
  have hdecode : (Charset.utf8.decode? bytes).isSome = true := by
    rw [show Charset.utf8.decode? bytes = some text from htext]
    rfl
  -- No guess is given the confidence of a charset that was tried out.
  have hbefore :
      Candidate.le ⟨Charset.utf8.name, certain⟩ ⟨guess.name, guess.confidence⟩ = true := by
    have hconfidence : guess.confidence < certain := by
      unfold Guess.confidence certain
      split <;> decide
    simp [Candidate.le, hconfidence]
  have hsorted : candidates guess bytes =
      [⟨Charset.utf8.name, certain⟩, ⟨guess.name, guess.confidence⟩] := by
    unfold candidates
    simp only [hmark, hdecode, if_true]
    rw [List.mergeSort_of_pairwise]
    simp [hbefore]
  have hname : Charset.ofName? Charset.utf8.name = some .utf8 := Unicode.ofName?_name .utf8
  rw [hsorted]
  unfold select?
  cases hguess : Charset.ofName? guess.name with
  | none => simp [hname, hguess]
  | some other => simp [hname, hguess, better, hbefore]

theorem decodeWith_of_select (hselect : select? (candidates guess bytes) = some charset)
    (hdecode : charset.decode? bytes = some text) :
    decodeWith guess bytes =
      if isWellFormed text then .ok (.text text charset)
      else if isBinary bytes then .ok .binary else .error (.malformed charset) := by
  unfold decodeWith decodeBest
  simp only [hselect, hdecode]
  cases isWellFormed text <;> rfl

theorem decodeWith_of_marked {encoding : Unicode} (hmark : marked? bytes = some encoding.charset)
    (hdecode : encoding.charset.decode? bytes = some text) (hwell : isWellFormed text = true) :
    decodeWith guess bytes = .ok (.text text encoding.charset) := by
  rw [decodeWith_of_select (select?_of_marked hmark) hdecode, if_pos hwell]

theorem decodeWith_of_guess (hmark : marked? bytes = none) (hutf8 : Text.Utf8.decode? bytes = none)
    (hname : Charset.ofName? guess.name = some charset) (hdecode : charset.decode? bytes = some text)
    (hwell : isWellFormed text = true) : decodeWith guess bytes = .ok (.text text charset) := by
  have hcandidates : candidates guess bytes = [⟨guess.name, guess.confidence⟩] := by
    unfold candidates
    simp [hmark, Charset.decode?, hutf8]
  have hselect : select? (candidates guess bytes) = some charset := by
    rw [hcandidates]
    simp [select?, hname]
  rw [decodeWith_of_select hselect hdecode, if_pos hwell]

/-! ## Byte order marks -/

theorem not_isPrefixOf (hnone : ∀ rest, Text.Utf8.decode? (mark ++ rest) = none)
    (htext : Text.Utf8.decode? bytes = some text) : mark.isPrefixOf bytes = false := by
  rw [Bool.eq_false_iff]
  intro hprefix
  obtain ⟨rest, rfl⟩ := List.isPrefixOf_iff_prefix.1 hprefix
  rw [hnone] at htext
  cases htext

/-- Bytes that are UTF-8 start with no other mark. -/
theorem marked?_of_utf8 (htext : Text.Utf8.decode? bytes = some text) :
    marked? bytes = none ∨ marked? bytes = some .utf8 := by
  have hlittle32 : [0xFF, 0xFE, 0x00, 0x00].isPrefixOf bytes = false :=
    not_isPrefixOf (fun rest => Text.Utf8.decode?_of_next_none rfl) htext
  -- The zeros of this mark are characters of UTF-8; what follows them is none.
  have hbig32 : [0x00, 0x00, 0xFE, 0xFF].isPrefixOf bytes = false := by
    refine not_isPrefixOf (fun rest => ?_) htext
    have hlast : Text.Utf8.decode? (0xFE :: 0xFF :: rest) = none :=
      Text.Utf8.decode?_of_next_none rfl
    have hzero : ∀ more, Text.Utf8.decode? (0x00 :: more) =
        (Text.Utf8.decode? more).map (Char.ofNat 0 :: ·) :=
      fun more => Text.Utf8.decode?_of_next (Text.Utf8.next_one (by decide))
    show Text.Utf8.decode? (0x00 :: 0x00 :: 0xFE :: 0xFF :: rest) = none
    rw [hzero, hzero, hlast]
    rfl
  have hlittle16 : [0xFF, 0xFE].isPrefixOf bytes = false :=
    not_isPrefixOf (fun rest => Text.Utf8.decode?_of_next_none rfl) htext
  have hbig16 : [0xFE, 0xFF].isPrefixOf bytes = false :=
    not_isPrefixOf (fun rest => Text.Utf8.decode?_of_next_none rfl) htext
  unfold marked? marks
  simp only [List.find?_cons, hlittle32, hbig32, hlittle16, hbig16]
  cases [0xEF, 0xBB, 0xBF].isPrefixOf bytes
  · exact .inl rfl
  · exact .inr rfl

/-- The character that marks the byte order. -/
def byteOrderMark : Char := '\uFEFF'

/-- A text behind a byte order mark is marked as what it is, unless it starts with the character
zero. -/
theorem marked?_encode (encoding : Unicode) (h : ∀ c ∈ text, c.toNat ≠ 0) :
    marked? (encoding.encode (byteOrderMark :: text)) = some encoding.charset := by
  cases encoding with
  | utf8 => rfl
  | utf16 order =>
    -- The mark of UTF-32 is that of UTF-16 and two zeros, which no such text starts with.
    have hzeros : [0x00, 0x00].isPrefixOf (Text.Utf16.encode order text) = false := by
      rw [Bool.eq_false_iff]
      intro hprefix
      obtain ⟨rest, hrest⟩ := List.isPrefixOf_iff_prefix.1 hprefix
      exact Text.Utf16.encode_ne_zeros h rest hrest.symm
    cases order with
    | little =>
      have hbytes : Unicode.encode (.utf16 .little) (byteOrderMark :: text) =
          0xFF :: 0xFE :: Text.Utf16.encode .little text := rfl
      have hlittle32 : [0xFF, 0xFE, 0x00, 0x00].isPrefixOf
          (Unicode.encode (.utf16 .little) (byteOrderMark :: text)) = false := by
        rw [hbytes]
        exact hzeros
      simp only [marked?, marks, List.find?_cons, hlittle32]
      rfl
    | big => rfl
  | utf32 order => cases order <;> rfl

/-! ## Control characters -/

/-- A forbidden control character is its own byte in UTF-8. -/
theorem isBinary_encode (h : isWellFormed text = false) :
    isBinary (Text.Utf8.encode text) = true := by
  obtain ⟨c, hmem, hc⟩ := List.all_eq_false.1 h
  have hforbidden : isForbidden c.toNat = true := by simpa using hc
  have hsmall : c.toNat < 128 := by
    simp only [isForbidden, Bool.or_eq_true, Bool.and_eq_true, decide_eq_true_eq,
      beq_iff_eq] at hforbidden
    omega
  have hbyte : (UInt8.ofNat c.toNat).toNat = c.toNat := Text.Utf8.toNat_ofNat (by omega)
  refine List.any_eq_true.2 ⟨UInt8.ofNat c.toNat, List.mem_flatMap.2 ⟨c, hmem, ?_⟩, ?_⟩
  · rw [Text.Utf8.utf8EncodeChar_ascii hsmall]
    exact List.mem_singleton_self _
  · rw [hbyte]
    exact hforbidden

theorem isBinary_of_decodeWith (h : decodeWith guess bytes = .ok .binary) :
    isBinary bytes = true := by
  unfold decodeWith at h
  split at h
  · cases h
  · split at h
    next hbinary => exact hbinary
    · cases h

/-- A decoded text is the well-formed text of the selected charset. -/
theorem select?_of_decodeWith (h : decodeWith guess bytes = .ok (.text text charset)) :
    select? (candidates guess bytes) = some charset ∧ charset.decode? bytes = some text ∧
      isWellFormed text = true := by
  have hbest : decodeBest guess bytes = .ok (text, charset) := by
    unfold decodeWith at h
    split at h
    next found =>
      cases h
      exact found
    · split at h <;> cases h
  unfold decodeBest at hbest
  split at hbest
  · cases hbest
  next hselect =>
    split at hbest
    · cases hbest
    next hdecode =>
      split at hbest
      next hwell =>
        cases hbest
        exact ⟨hselect, hdecode, hwell⟩
      · cases hbest

/-- UTF-8 is selected wherever it can be decoded, with or without its mark. -/
theorem select?_of_decode?_utf8 (guess : Guess) (htext : Text.Utf8.decode? bytes = some text) :
    select? (candidates guess bytes) = some .utf8 := by
  rcases marked?_of_utf8 htext with hmark | hmark
  · exact select?_of_utf8 hmark htext
  · have hmark : marked? bytes = some Unicode.utf8.charset := hmark
    exact select?_of_marked hmark

theorem select?_encode (guess : Guess) (text : List Char) :
    select? (candidates guess (Text.Utf8.encode text)) = some .utf8 :=
  select?_of_decode?_utf8 guess (Text.Utf8.decode?_encode text)

/-! ## Main results -/

/-- **UTF-8 is decoded whatever the guess**: to its own text, or to binary if the text holds a
forbidden control character. Whatever the bytes, a forbidden control byte is in all that are binary,
and no forbidden control character is in a decoded text. -/
theorem decodeWith_utf8 (guess : Guess) :
    (∀ text, (∀ c ∈ text, isForbidden c.toNat = false) →
      decodeWith guess (Text.Utf8.encode text) = .ok (.text text .utf8)) ∧
    (∀ text, (∃ c ∈ text, isForbidden c.toNat = true) →
      decodeWith guess (Text.Utf8.encode text) = .ok .binary) ∧
    (∀ bytes, decodeWith guess bytes = .ok .binary → ∃ b ∈ bytes, isForbidden b.toNat = true) ∧
    (∀ bytes text charset, decodeWith guess bytes = .ok (.text text charset) →
      ∀ c ∈ text, isForbidden c.toNat = false) := by
  refine ⟨fun text hclean => ?_, fun text ⟨c, hmem, hc⟩ => ?_, fun bytes h => ?_,
    fun bytes text charset h c hc => ?_⟩
  · have hwell : isWellFormed text = true := by simpa [isWellFormed] using hclean
    rw [decodeWith_of_select (select?_encode guess text) (Text.Utf8.decode?_encode text),
      if_pos hwell]
  · have hnot : isWellFormed text = false :=
      List.all_eq_false.2 ⟨c, hmem, by simp [hc]⟩
    rw [decodeWith_of_select (select?_encode guess text) (Text.Utf8.decode?_encode text), hnot,
      if_neg Bool.false_ne_true, if_pos (isBinary_encode hnot)]
  · exact List.any_eq_true.1 (isBinary_of_decodeWith h)
  · have hwell := List.all_eq_true.1 (select?_of_decodeWith h).2.2 c hc
    simpa using hwell

theorem decodeWith_utf8_bell :
    decodeWith ⟨"Shift_JIS", true⟩ (Text.Utf8.encode "é\x07".toList) = .ok .binary ∧
      (∃ b ∈ Text.Utf8.encode "é\x07".toList, isForbidden b.toNat = true) ∧
      decodeWith ⟨"Shift_JIS", true⟩ (Text.Utf8.encode "é".toList) = .ok (.text "é".toList .utf8) ∧
      ∀ c ∈ "é".toList, isForbidden c.toNat = false := by
  obtain ⟨htext, hbell, hbinary, hclean⟩ := decodeWith_utf8 ⟨"Shift_JIS", true⟩
  have hbell := hbell "é\x07".toList ⟨'\x07', by simp, by simp [isForbidden]⟩
  have hletter := htext "é".toList (by simp [isForbidden])
  exact ⟨hbell, hbinary _ hbell, hletter, hclean _ _ _ hletter⟩

/-- **Decoding undoes encoding behind a byte order mark**, whatever the guess. -/
theorem decodeWith_encode_marked (guess : Guess) (encoding : Unicode) (text : List Char)
    (h : ∀ c ∈ text, isForbidden c.toNat = false) :
    decodeWith guess (encoding.encode (byteOrderMark :: text)) =
      .ok (.text (byteOrderMark :: text) encoding.charset) := by
  have hzero : ∀ c ∈ text, c.toNat ≠ 0 := by
    intro c hc hzero
    have hclean := h c hc
    rw [hzero] at hclean
    cases hclean
  have hwell : isWellFormed (byteOrderMark :: text) = true := by
    refine List.all_eq_true.2 fun c hc => ?_
    rcases List.mem_cons.1 hc with rfl | hc
    · rfl
    · simp [h c hc]
  exact decodeWith_of_marked (marked?_encode encoding hzero) (encoding.decode?_encode _) hwell

theorem decodeWith_encode_marked_cyrillic :
    (∀ c ∈ "день\n".toList, isForbidden c.toNat = false) ∧
      decodeWith ⟨"KOI8-R", true⟩
          ((Unicode.utf16 .little).encode (byteOrderMark :: "день\n".toList)) =
        .ok (.text (byteOrderMark :: "день\n".toList) (.utf16 .little)) :=
  have h : ∀ c ∈ "день\n".toList, isForbidden c.toNat = false := by simp [isForbidden]
  ⟨h, decodeWith_encode_marked ⟨"KOI8-R", true⟩ (.utf16 .little) "день\n".toList h⟩

end StyleCheck.Charset
