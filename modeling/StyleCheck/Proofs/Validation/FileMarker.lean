import StyleCheck.Proofs.Charset.Stretches
import StyleCheck.Proofs.Text.FirstLine
import StyleCheck.Validation.Report

/-!
# The file marker before and after decoding

The file marker is looked for in the bytes of a file first, and in its text if it can be decoded.

**Theorem (`agreement_of_decodeWith`).** Where both can be done they agree for bytes that are UTF-8.
In any other charset a marker among the bytes is in the text as well, unless the charset may put
its bytes together with others (`mayImitate`). In the pair charsets that takes a byte that is no
ASCII directly before the marker, which then swallows the first letter. In UTF-16 the marker is read
as ten other characters, with one letter left over at its end or at its beginning.

Outside of UTF-16 and UTF-32 the text is spelled by the bytes, and is cut where the marker begins
(`Spells.cut`). In UTF-16 the marker holds ten whole units (`units_of_mem_parts`), in UTF-32 a
character has a byte that is zero, and the marker has none.
-/

namespace StyleCheck.Validation

open Charset (IsByteLine IsAscii Spells High Paired)
open Text (IsLine OnFirstLine)

variable {guess : Charset.Guess} {bytes before after front back part : List UInt8}
  {content text : List Char} {charset : Charset} {order : Text.ByteOrder}
  {followers : List UInt8 → Prop}

/-- Whether text of the charset may have the bytes of the marker without the marker itself, because
its characters may have bytes below `0x80` in other places. -/
def mayImitate : Charset → Bool
  | .utf16 _ => true
  | charset => charset.pairsAscii

/-! ## The marker -/

/-- The bytes of the file marker. -/
def markerBytes : List UInt8 := Text.Utf8.encode Marker.file.text.toList

/-- The file marker is on the first line of a text. -/
def IsMarked (content : List Char) : Prop := OnFirstLine Marker.file.text.toList content

instance : Decidable (IsMarked content) := inferInstanceAs (Decidable (OnFirstLine _ _))

/-- All of the marker but its first letter is on the first line of a text. -/
def IsHalfMarked (content : List Char) : Prop := OnFirstLine Marker.file.text.toList.tail content

theorem markerBytes_eq : markerBytes = 0x65 :: markerBytes.tail := by decide

theorem isAscii_markerBytes : IsAscii markerBytes := by decide

theorem isMarked_iff : IsMarked content ↔
    ∃ front back, content = front ++ (Marker.file.text.toList ++ back) ∧ IsLine front :=
  Text.onFirstLine_iff (by unfold IsLine; decide) (by decide)

theorem isHalfMarked_iff : IsHalfMarked content ↔
    ∃ front back, content = front ++ (Marker.file.text.toList.tail ++ back) ∧ IsLine front :=
  Text.onFirstLine_iff (by unfold IsLine; decide) (by decide)

/-- No byte before the marker ends a line. -/
theorem isExempt_bytes_iff : isExempt bytes = true ↔
    ∃ before after, bytes = before ++ (markerBytes ++ after) ∧ IsByteLine before := by
  have hline : ∀ before : List UInt8,
      (∀ b ∈ before, (b != 0x0A && b != 0x0D) = true) ↔ IsByteLine before := by
    intro before
    simp only [Charset.isByteLine_iff, Bool.and_eq_true, bne_iff_ne, ne_eq, ← UInt8.toNat_inj]
    rfl
  unfold isExempt firstLine
  rw [← markerBytes, Text.hasWord_takeWhile_iff ((hline markerBytes).2 (by decide))]
  simp only [hline]

/-! ## Text spelled by its bytes -/

/-- A marker in the bytes is in the text, or begins inside of a stretch. -/
theorem isMarked_or_of_spells (h : Spells followers (before ++ (markerBytes ++ after)) content)
    (hbefore : IsByteLine before) :
    IsMarked content ∨ ∃ start lead x y rest front back, before = start ++ lead :: x ∧
      0x80 ≤ lead.toNat ∧ markerBytes.tail ++ after = y ++ rest ∧ followers (x ++ 0x65 :: y) ∧
      content = front ++ back ∧ IsLine front ∧ Spells followers rest back := by
  have hbytes : before ++ (markerBytes ++ after) = before ++ 0x65 :: (markerBytes.tail ++ after) := by
    rw [markerBytes_eq]
    rfl
  rcases h.cut hbytes hbefore with ⟨front, back, rfl, hfront, hback⟩ | hinside
  · have hback : Spells followers (markerBytes ++ after) back := hback
    obtain ⟨back, rfl, -⟩ := hback.append_ascii isAscii_markerBytes
    exact .inl (isMarked_iff.2 ⟨front, back, rfl, hfront⟩)
  · exact .inr hinside

/-- Where only high bytes follow a high byte, no stretch holds the beginning of the marker. -/
theorem isMarked_of_spells_high (h : Spells High bytes content) (hexempt : isExempt bytes = true) :
    IsMarked content := by
  obtain ⟨before, after, rfl, hbefore⟩ := isExempt_bytes_iff.1 hexempt
  rcases isMarked_or_of_spells h hbefore with hmarked |
    ⟨-, -, x, y, -, -, -, -, -, -, hmore, -, -, -⟩
  · exact hmarked
  · have hletter : (0x80 : Nat) ≤ (0x65 : UInt8).toNat :=
      hmore 0x65 (List.mem_append_right x List.mem_cons_self)
    exact absurd hletter (by decide)

/-- Where pairs are used, the first letter of the marker may be the second byte of a pair. -/
theorem isMarked_or_of_spells_paired
    (h : Spells Paired (before ++ (markerBytes ++ after)) content) (hbefore : IsByteLine before) :
    IsMarked content ∨ (∃ lead ∈ before.getLast?, 0x80 ≤ lead.toNat) ∧ IsHalfMarked content := by
  rcases isMarked_or_of_spells h hbefore with hmarked |
    ⟨start, lead, x, y, rest, front, back, rfl, hlead, hbehind, hmore, rfl, hfront, hrest⟩
  · exact .inl hmarked
  · rcases hmore with hone | hfew
    · rw [List.length_append, List.length_cons] at hone
      obtain rfl : x = [] := List.length_eq_zero_iff.1 (by omega)
      obtain rfl : y = [] := List.length_eq_zero_iff.1 (by omega)
      refine .inr ⟨⟨lead, by simp, hlead⟩, ?_⟩
      rw [List.nil_append] at hbehind
      rw [← hbehind] at hrest
      obtain ⟨back, rfl, -⟩ := Spells.append_ascii hrest
        fun b hb => isAscii_markerBytes b (List.mem_of_mem_tail hb)
      exact isHalfMarked_iff.2 ⟨front, back, rfl, hfront⟩
    · have hletter := hfew 0x65 (List.mem_append_right x List.mem_cons_self)
      exact absurd hletter (by decide)

/-- The two checks agree on what UTF-8 encodes. -/
theorem isExempt_encode_iff (content : List Char) :
    isExempt (Text.Utf8.encode content) = true ↔ IsMarked content := by
  constructor
  · intro h
    exact isMarked_of_spells_high (Charset.spells_utf8 (Text.Utf8.decode?_encode content)) h
  · intro h
    obtain ⟨front, back, rfl, hfront⟩ := isMarked_iff.1 h
    have hbytes : Text.Utf8.encode (front ++ (Marker.file.text.toList ++ back)) =
        Text.Utf8.encode front ++ (markerBytes ++ Text.Utf8.encode back) := by
      simp only [markerBytes, Text.Utf8.encode, List.flatMap_append]
    exact isExempt_bytes_iff.2 ⟨_, _, hbytes, Charset.isByteLine_encode hfront⟩

/-! ## UTF-16 -/

/-- What the marker leaves when its last or its first byte belongs to another unit. -/
def markerParts : List (List UInt8) := [markerBytes.dropLast, markerBytes.tail]

/-- Both parts are ten units, each of them a character that ends no line. -/
theorem units_of_mem_parts (order : Text.ByteOrder) (h : part ∈ markerParts) :
    part.length % 2 = 0 ∧ ∃ units, Text.Utf16.units? order part = some units ∧ units ≠ [] ∧
      ∀ u ∈ units, Text.Utf16.IsPlain u ∧ u ≠ 10 ∧ u ≠ 13 := by
  obtain rfl | rfl : part = markerBytes.dropLast ∨ part = markerBytes.tail := by
    simpa [markerParts] using h
  · cases order
    · exact ⟨by decide, _, rfl, by decide, by decide⟩
    · exact ⟨by decide, _, rfl, by decide, by decide⟩
  · cases order
    · exact ⟨by decide, _, rfl, by decide, by decide⟩
    · exact ⟨by decide, _, rfl, by decide, by decide⟩

/-- An end of a line has a byte with its own number. -/
theorem isLine_of_decode?_utf16 (h : Text.Utf16.decode? order front = some text)
    (hline : IsByteLine front) : IsLine text := by
  refine Text.isLine_iff.2 fun c hc => ?_
  obtain ⟨units, hunits, hchars⟩ := Option.bind_eq_some_iff.1 h
  obtain ⟨n, rfl, hn⟩ := Text.Utf16.exists_of_mem_ofUnits? hchars hc
  have hnot : n ≠ 10 ∧ n ≠ 13 := by
    rcases hn with hn | hn
    · obtain ⟨a, ha, b, hb, rfl⟩ := Text.Utf16.exists_of_mem_units? hunits hn
      have ha := Charset.isByteLine_iff.1 hline a ha
      have hb := Charset.isByteLine_iff.1 hline b hb
      have hsmall := a.toNat_lt
      have hsmall := b.toNat_lt
      cases order <;> simp only [Text.Utf16.unit] <;> omega
    · omega
  exact Charset.isInLine_ofNat hnot.1 hnot.2

/-- A part of the marker that stands behind whole units is read as what it is on its own. -/
theorem onFirstLine_of_mem_parts (hpart : part ∈ markerParts)
    (h : Text.Utf16.decode? order (front ++ (part ++ back)) = some content)
    (heven : front.length % 2 = 0) (hfront : IsByteLine front) :
    ∃ word, Text.Utf16.decode? order part = some word ∧ OnFirstLine word content := by
  obtain ⟨hlength, units, hunits, hne, hplain⟩ := units_of_mem_parts order hpart
  have hplain' : ∀ u ∈ units, Text.Utf16.IsPlain u := fun u hu => (hplain u hu).1
  obtain ⟨before, after, hbefore, rfl⟩ :=
    Text.Utf16.exists_of_decode? h heven hlength hunits hplain' hne
  have hword : Text.Utf16.decode? order part = some (units.map Char.ofNat) := by
    have hread := Text.Utf16.ofUnits?_plain_append hplain' []
    rw [Text.Utf16.decode?, hunits]
    simpa [Text.Utf16.ofUnits?] using hread
  have hline : IsLine (units.map Char.ofNat) :=
    Text.isLine_iff.2 (List.forall_mem_map.2 fun u hu =>
      Charset.isInLine_ofNat (hplain u hu).2.1 (hplain u hu).2.2)
  have hfirst := (Text.onFirstLine_iff hline (by simpa using hne)).2
    ⟨before, after, rfl, isLine_of_decode?_utf16 hbefore hfront⟩
  exact ⟨_, hword, hfirst⟩

/-- In UTF-16 a marker in the bytes is read as one of its parts. -/
theorem onFirstLine_of_utf16 (h : Text.Utf16.decode? order bytes = some content)
    (hexempt : isExempt bytes = true) :
    ∃ part ∈ markerParts, ∃ word, Text.Utf16.decode? order part = some word ∧
      OnFirstLine word content := by
  obtain ⟨before, after, rfl, hbefore⟩ := isExempt_bytes_iff.1 hexempt
  by_cases heven : before.length % 2 = 0
  · have hpart : markerBytes.dropLast ∈ markerParts := List.mem_cons_self
    have hmarker : markerBytes = markerBytes.dropLast ++ [0x65] := by decide
    rw [hmarker, List.append_assoc] at h
    exact ⟨_, hpart, onFirstLine_of_mem_parts hpart h heven hbefore⟩
  · have hpart : markerBytes.tail ∈ markerParts := List.mem_cons_of_mem _ List.mem_cons_self
    have hfront : IsByteLine (before ++ [0x65]) :=
      Charset.isByteLine_append.2 ⟨hbefore, by decide⟩
    rw [markerBytes_eq, List.cons_append, List.append_cons] at h
    refine ⟨_, hpart, onFirstLine_of_mem_parts hpart h ?_ hfront⟩
    rw [List.length_append, List.length_singleton]
    omega

/-- In UTF-32 the bytes hold no marker. -/
theorem isExempt_of_utf32 (h : Text.Utf32.decode? order bytes = some content) :
    isExempt bytes = false := by
  rw [Bool.eq_false_iff]
  intro hexempt
  obtain ⟨before, after, rfl, -⟩ := isExempt_bytes_iff.1 hexempt
  have hzero : 0 ∈ markerBytes := Text.Utf32.zero_mem_of_decode? h (by decide)
  exact absurd hzero (by decide)

/-! ## Main result -/

/-- The marker stands in the bytes of the first line, at its beginning or behind an ASCII byte. -/
def IsAloneOnFirstLine (bytes : List UInt8) : Prop :=
  ∃ before after, bytes = before ++ (markerBytes ++ after) ∧ IsByteLine before ∧
    ∀ b ∈ before.getLast?, b.toNat < 0x80

/-- How the check of the bytes and the check of the text agree for decoded bytes. -/
structure MarkersAgree (guess : Charset.Guess) (bytes : List UInt8) (content : List Char)
    (charset : Charset) : Prop where
  /-- Where the charset cannot imitate the marker, it is in the text if it is in the bytes. -/
  kept : mayImitate charset = false → isExempt bytes = true → IsMarked content
  /-- There the check of the bytes does not change what is checked. -/
  textToCheck : mayImitate charset = false → textToCheckWith guess bytes =
    .ok (if isExempt (Text.Utf8.encode content) then none else some content)
  /-- Outside of UTF-16 a marker is kept that stands at the beginning or behind an ASCII byte. -/
  alone : (∀ order, charset ≠ .utf16 order) → IsAloneOnFirstLine bytes → IsMarked content
  /-- Outside of UTF-16 at most the first letter of the marker is lost. -/
  half : (∀ order, charset ≠ .utf16 order) → isExempt bytes = true →
    IsMarked content ∨ IsHalfMarked content
  /-- In UTF-16 the text has the characters that a part of the marker is there. -/
  parts : ∀ order, charset = .utf16 order → isExempt bytes = true →
    ∃ part ∈ markerParts, ∃ word, Text.Utf16.decode? order part = some word ∧
      OnFirstLine word content
  /-- For what can be UTF-8 the checks are equivalent. -/
  utf8 : (Text.Utf8.decode? bytes).isSome = true → (isExempt bytes = true ↔ IsMarked content)
  /-- The check of the text is for the marker on its first line. -/
  decoded : isExempt (Text.Utf8.encode content) = true ↔ IsMarked content

theorem pairsAscii_of_mayImitate (h : mayImitate charset = false) : charset.pairsAscii = false := by
  cases charset with
  | utf16 order => cases h
  | _ => exact h

/-- Outside of UTF-16 bytes with the marker spell their text. -/
theorem spells_of_isExempt (h : Charset.decodeWith guess bytes = .ok (.text content charset))
    (hutf16 : ∀ order, charset ≠ .utf16 order) (hexempt : isExempt bytes = true) :
    Spells charset.Follows bytes content := by
  rcases Charset.decodeWith_cases h with ⟨order, rfl, -⟩ | ⟨order, rfl, htext⟩ | hspells
  · exact absurd rfl (hutf16 order)
  · rw [isExempt_of_utf32 htext] at hexempt
    cases hexempt
  · exact hspells

theorem isMarked_of_decodeWith (h : Charset.decodeWith guess bytes = .ok (.text content charset))
    (hkeeps : mayImitate charset = false) (hexempt : isExempt bytes = true) : IsMarked content := by
  have hutf16 : ∀ order, charset ≠ .utf16 order := by
    rintro order rfl
    cases hkeeps
  have hspells := spells_of_isExempt h hutf16 hexempt
  exact isMarked_of_spells_high (hspells.high (pairsAscii_of_mayImitate hkeeps)) hexempt

/-- **The check of the bytes agrees with the check of the text**, up to the imitations that the
charset of the text allows. -/
theorem agreement_of_decodeWith
    (h : Charset.decodeWith guess bytes = .ok (.text content charset)) :
    MarkersAgree guess bytes content charset where
  kept hkeeps hexempt := isMarked_of_decodeWith h hkeeps hexempt
  textToCheck hkeeps := by
    unfold textToCheckWith
    by_cases hexempt : isExempt bytes = true
    · have hdecoded : isExempt (Text.Utf8.encode content) = true :=
        (isExempt_encode_iff content).2 (isMarked_of_decodeWith h hkeeps hexempt)
      rw [if_pos hexempt, if_pos hdecoded]
    · rw [if_neg hexempt, h]
  alone := by
    rintro hutf16 ⟨before, after, rfl, hbefore, hlast⟩
    have hexempt := isExempt_bytes_iff.2 ⟨before, after, rfl, hbefore⟩
    have hspells := spells_of_isExempt h hutf16 hexempt
    -- No high byte comes right before the marker to make a pair with its first letter.
    rcases isMarked_or_of_spells_paired hspells.paired hbefore with hmarked |
      ⟨⟨lead, hlead, hhigh⟩, -⟩
    · exact hmarked
    · exact absurd (hlast lead hlead) (Nat.not_lt_of_le hhigh)
  half hutf16 hexempt := by
    have hspells := spells_of_isExempt h hutf16 hexempt
    obtain ⟨before, after, rfl, hbefore⟩ := isExempt_bytes_iff.1 hexempt
    exact (isMarked_or_of_spells_paired hspells.paired hbefore).imp_right And.right
  parts := by
    rintro order rfl hexempt
    exact onFirstLine_of_utf16 (Charset.select?_of_decodeWith h).2.1 hexempt
  utf8 hutf8 := by
    obtain ⟨text, htext⟩ := Option.isSome_iff_exists.1 hutf8
    obtain ⟨hselect, hdecode, -⟩ := Charset.select?_of_decodeWith h
    rw [Charset.select?_of_decode?_utf8 guess htext] at hselect
    cases hselect
    rw [← Text.Utf8.encode_of_decode? hdecode]
    exact isExempt_encode_iff content
  decoded := isExempt_encode_iff content

/-- A space stands between a katakana and the marker. -/
theorem agreement_of_decodeWith_katakana :
    Charset.decodeWith ⟨"Shift_JIS", true⟩ (0xB1 :: 0x20 :: markerBytes) =
        .ok (.text "ｱ ec-guard:disable-file".toList .shiftJis) ∧
      MarkersAgree ⟨"Shift_JIS", true⟩ (0xB1 :: 0x20 :: markerBytes)
        "ｱ ec-guard:disable-file".toList .shiftJis := by
  have hascii : IsAscii (0x20 :: markerBytes) := by decide
  have hdecode : Charset.decode? .shiftJis (0xB1 :: 0x20 :: markerBytes) =
      some "ｱ ec-guard:disable-file".toList := by
    rw [Charset.decode?, Charset.Reader.decode?_cons rfl, List.drop_zero,
      Charset.keeps_shiftJis.decode?_ascii hascii]
    decide
  have hname : Charset.ofName? (Charset.Guess.mk "Shift_JIS" true).name = some .shiftJis := rfl
  have h := Charset.decodeWith_of_guess rfl (Text.Utf8.decode?_of_next_none rfl) hname hdecode rfl
  exact ⟨h, agreement_of_decodeWith h⟩

/-! ## Imitations -/

/-- The marker behind a byte with which its first letter makes a pair. -/
theorem exists_imitation_of_reader {read : Charset.Reader} {lead : UInt8} {c : Char}
    (hread : read.Keeps followers) (hcharset : ∀ bytes, charset.decode? bytes = read.decode? bytes)
    (hname : Charset.ofName? charset.name = some charset)
    (hhigh : 0x80 ≤ lead.toNat) (hmark : Charset.marked? (lead :: markerBytes) = none)
    (hlead : (Text.Utf8.next lead markerBytes).1 = none)
    (hpair : ∀ rest, read lead (0x65 :: rest) = some ([c], 1))
    (hwell : Charset.isForbidden c.toNat = false)
    (hnot : ¬ IsMarked (c :: Marker.file.text.toList.tail)) :
    ∃ guess bytes content, Charset.decodeWith guess bytes = .ok (.text content charset) ∧
      isExempt bytes = true ∧ ¬ IsMarked content := by
  have hascii : IsAscii markerBytes.tail := by decide
  have hmap : markerBytes.tail.map (fun b => Char.ofNat b.toNat) = Marker.file.text.toList.tail := by
    decide
  -- The lead byte takes the first letter of the marker with it; the others are ASCII.
  have htext : charset.decode? (lead :: markerBytes) = some (c :: Marker.file.text.toList.tail) := by
    rw [hcharset, markerBytes_eq, Charset.Reader.decode?_cons (hpair _), List.drop_one,
      List.tail_cons, hread.decode?_ascii hascii, hmap]
    rfl
  have hwell : Charset.isWellFormed (c :: Marker.file.text.toList.tail) = true := by
    have htail : Charset.isWellFormed Marker.file.text.toList.tail = true := by decide
    rw [Charset.isWellFormed, List.all_cons, hwell]
    exact htail
  have hline : IsByteLine [lead] :=
    Charset.isByteLine_cons.2 ⟨by omega, Charset.isByteLine_iff.2 (List.forall_mem_nil _)⟩
  have hexempt : isExempt (lead :: markerBytes) = true :=
    isExempt_bytes_iff.2 ⟨[lead], [], by simp, hline⟩
  have hname : Charset.ofName? (Charset.Guess.mk charset.name true).name = some charset := hname
  exact ⟨_, _, _, Charset.decodeWith_of_guess hmark (Text.Utf8.decode?_of_next_none hlead) hname
    htext hwell, hexempt, hnot⟩

/-- The marker behind a byte order mark of UTF-16, with a byte more to complete the last unit. -/
theorem decodeWith_imitation (guess : Charset.Guess) :
    Charset.decodeWith guess ([0xFF, 0xFE] ++ (markerBytes ++ [0x21])) =
        .ok (.text "\uFEFF捥札慵摲携獩扡敬昭汩Ⅵ".toList (.utf16 .little)) ∧
      Charset.decodeWith guess ([0xFE, 0xFF] ++ (markerBytes ++ [0x21])) =
        .ok (.text "\uFEFF散ⵧ畡牤㩤楳慢汥ⵦ楬攡".toList (.utf16 .big)) := by
  have hlittle : Charset.marked? ([0xFF, 0xFE] ++ (markerBytes ++ [0x21])) =
      some (Charset.Unicode.utf16 .little).charset := rfl
  have hbig : Charset.marked? ([0xFE, 0xFF] ++ (markerBytes ++ [0x21])) =
      some (Charset.Unicode.utf16 .big).charset := rfl
  exact ⟨Charset.decodeWith_of_marked hlittle (by decide) rfl,
    Charset.decodeWith_of_marked hbig (by decide) rfl⟩

set_option maxRecDepth 4000 in
/-- **No exception is needless**: every charset that may imitate the marker does so for some bytes
and some guess. -/
theorem exists_imitation (h : mayImitate charset = true) :
    ∃ guess bytes content, Charset.decodeWith guess bytes = .ok (.text content charset) ∧
      isExempt bytes = true ∧ ¬ IsMarked content := by
  cases charset with
  | utf16 order =>
    obtain ⟨hlittle, hbig⟩ := decodeWith_imitation ⟨"", true⟩
    cases order with
    | little => exact ⟨_, _, _, hlittle, by decide, by decide⟩
    | big => exact ⟨_, _, _, hbig, by decide, by decide⟩
  | shiftJis =>
    have hpair (rest) : Charset.Reader.shiftJis 0xF0 (0x65 :: rest) = some (['\uE025'], 1) := by
      simp [Charset.Reader.shiftJis, Charset.within, Charset.shiftJisPair?, Charset.shiftJisNumber,
        Charset.Reader.one]
    exact exists_imitation_of_reader Charset.keeps_shiftJis (fun _ => rfl) rfl (by decide) rfl rfl
      hpair rfl (by decide)
  | eucKr =>
    have hat : Charset.Table.korean.at? 36 = some '갻' := by
      apply Charset.Table.at?_of_row
      · rfl
      · rfl
      · decide
    have hpair (rest) : Charset.Reader.eucKr 0x81 (0x65 :: rest) = some (['갻'], 1) := by
      simp [Charset.Reader.eucKr, Charset.within, hat, Charset.Reader.one]
    exact exists_imitation_of_reader Charset.keeps_eucKr (fun _ => rfl) rfl (by decide) rfl rfl
      hpair rfl (by decide)
  | gb18030 | gbk =>
    have hat : Charset.Table.chinese.at? 37 = some '乪' := by
      apply Charset.Table.at?_of_row
      · rfl
      · rfl
      · decide
    have hpair (rest) : Charset.Reader.gb18030 0x81 (0x65 :: rest) = some (['乪'], 1) := by
      simp [Charset.Reader.gb18030, Charset.within, Charset.chinesePair?, hat, Charset.Reader.one]
    exact exists_imitation_of_reader Charset.keeps_gb18030 (fun _ => rfl) rfl (by decide) rfl rfl
      hpair rfl (by decide)
  | big5 =>
    have hat : Charset.Table.big5.at? 5532 = some '叉' := by
      apply Charset.Table.at?_of_row
      · rfl
      · rfl
      · decide
    have hplain : Charset.big5Marked.lookup 5532 = none := rfl
    have hpair (rest) : Charset.Reader.big5 0xA4 (0x65 :: rest) = some (['叉'], 1) := by
      simp [Charset.Reader.big5, Charset.within, hplain, hat, Charset.Reader.one]
    exact exists_imitation_of_reader Charset.keeps_big5 (fun _ => rfl) rfl (by decide) rfl rfl
      hpair rfl (by decide)
  | utf8 | utf32 | singleByte | logicalHebrew | eucJp | iso2022Jp | hz => cases h

/-- The marker is in the bytes of a text in UTF-16 and not in the text, and other charsets that may
imitate it have such bytes as well. -/
theorem marker_imitated :
    (Charset.decode ([0xFF, 0xFE] ++ (markerBytes ++ [0x21])) =
        .ok (.text "\uFEFF捥札慵摲携獩扡敬昭汩Ⅵ".toList (.utf16 .little)) ∧
      isExempt ([0xFF, 0xFE] ++ (markerBytes ++ [0x21])) = true ∧
      ¬ IsMarked "\uFEFF捥札慵摲携獩扡敬昭汩Ⅵ".toList) ∧
    ∀ charset, mayImitate charset = true →
      ∃ guess bytes content, Charset.decodeWith guess bytes = .ok (.text content charset) ∧
        isExempt bytes = true ∧ ¬ IsMarked content :=
  ⟨⟨(decodeWith_imitation _).1, by decide, by decide⟩, fun _ => exists_imitation⟩

end StyleCheck.Validation
