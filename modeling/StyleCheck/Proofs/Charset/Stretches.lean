import StyleCheck.Proofs.Charset.Ascii
import StyleCheck.Proofs.Charset.Decoding
import StyleCheck.Proofs.Charset.Tables

/-!
# What the charsets do with ASCII

A decoded text is spelled by its bytes (`Spells`) in all charsets but UTF-16, UTF-32 and those with
modes (`decode?_cases`). In UTF-8, the single-byte charsets and EUC-JP only high bytes follow a high
byte; in the other charsets of East Asia an ASCII byte may be the second of a pair.

The charsets with modes use bytes of seven bits only, so what they can decode is ASCII and with that
UTF-8 (`IsAscii.decode?_utf8`); the text of a file is never decoded with them (`decodeWith_cases`).
-/

namespace StyleCheck.Charset

open Text (IsLine)

variable {followers : List UInt8 → Prop} {b : UInt8} {bytes rest : List UInt8}
  {chars text : List Char} {taken : Nat}

/-! ## UTF-8 and the single-byte charsets -/

theorem spells_utf8 (h : Text.Utf8.decode? bytes = some text) : Spells High bytes text := by
  rw [← Text.Utf8.encode_of_decode? h]
  clear h
  induction text with
  | nil => exact .nil
  | cons c text ih =>
    rw [Text.Utf8.encode, List.flatMap_cons]
    by_cases hc : c.toNat < 128
    · have hbyte : (UInt8.ofNat c.toNat).toNat = c.toNat := Text.Utf8.toNat_ofNat (by omega)
      have hspells := ih.ascii (b := UInt8.ofNat c.toNat) (by omega)
      rw [hbyte, Char.ofNat_toNat] at hspells
      rw [Text.Utf8.utf8EncodeChar_ascii hc]
      exact hspells
    · have hc : 128 ≤ c.toNat := Nat.le_of_not_lt hc
      obtain ⟨lead, more, hbytes, -⟩ := Text.Utf8.next_utf8EncodeChar c []
      have hhigh : ∀ b ∈ lead :: more, 0x80 ≤ b.toNat := fun b hb =>
        Text.Utf8.high_of_mem_utf8EncodeChar hc (hbytes ▸ hb)
      obtain ⟨hlead, hmore⟩ := List.forall_mem_cons.1 hhigh
      have hchar : IsLine [c] := by
        rw [← Char.ofNat_toNat c]
        exact isLine_ofNat (by omega) (by omega)
      rw [hbytes]
      exact .wide hlead hmore hchar ih

/-- UTF-8 has no end of a line but those of the text. -/
theorem isByteLine_encode (h : IsLine text) : IsByteLine (Text.Utf8.encode text) := by
  refine isByteLine_iff.2 fun b hb => ?_
  obtain ⟨c, hc, hb⟩ := List.mem_flatMap.1 hb
  by_cases hascii : c.toNat < 128
  · rw [Text.Utf8.utf8EncodeChar_ascii hascii, List.mem_singleton] at hb
    have hbyte : b.toNat = c.toNat := hb ▸ Text.Utf8.toNat_ofNat (by omega)
    have hne (d : Char) (hd : d ∉ text) : b.toNat ≠ d.toNat := fun heq =>
      hd (Char.toNat_inj.1 (hbyte.symm.trans heq) ▸ hc)
    exact ⟨hne '\n' h.1, hne '\r' h.2⟩
  · have hhigh := Text.Utf8.high_of_mem_utf8EncodeChar (Nat.le_of_not_lt hascii) hb
    omega

theorem SingleByte.spells {charset : SingleByte} (h : charset.decode? bytes = some text) :
    Spells High bytes text := by
  unfold SingleByte.decode? at h
  induction bytes generalizing text with
  | nil =>
    cases h
    exact .nil
  | cons b bytes ih =>
    rw [List.mapM_cons] at h
    obtain ⟨c, hc, h⟩ := Option.bind_eq_some_iff.1 h
    obtain ⟨text, htext, h⟩ := Option.bind_eq_some_iff.1 h
    cases h
    have ih := ih htext
    unfold SingleByte.char? at hc
    split at hc
    next hb =>
      cases hc
      exact .ascii (UInt8.lt_iff_toNat_lt.1 hb) ih
    next hb =>
      have hb : 0x80 ≤ b.toNat := UInt8.le_iff_toNat_le.1 (UInt8.not_lt.1 hb)
      have hhigh : High [] := List.forall_mem_nil _
      exact .wide hb hhigh ((Table.isLineFree_upper charset).isLine hc) ih

/-! ## Readers -/

/-- The reader keeps ASCII: a byte below `0x80` is read as it is, and behind any other byte it takes
only what may follow there. -/
structure Reader.Keeps (read : Reader) (followers : List UInt8 → Prop) : Prop where
  ascii : ∀ b rest, b.toNat < 0x80 → read b rest = Reader.ascii b
  wide : ∀ b rest chars taken, 0x80 ≤ b.toNat → read b rest = some (chars, taken) →
    followers (rest.take taken) ∧ IsLine chars

theorem Reader.Keeps.spells {read : Reader} (hread : read.Keeps followers)
    (h : read.decode? bytes = some text) : Spells followers bytes text := by
  fun_induction Reader.decode? read bytes generalizing text with
  | case1 =>
    cases h
    exact .nil
  | case2 => cases h
  | case3 b rest chars taken hstart ih =>
    obtain ⟨text, htext, rfl⟩ := Option.map_eq_some_iff.1 h
    have ih := ih htext
    by_cases hb : b.toNat < 0x80
    · rw [hread.ascii b rest hb] at hstart
      cases hstart
      exact ih.ascii hb
    · have hb : 0x80 ≤ b.toNat := Nat.le_of_not_lt hb
      obtain ⟨hfollow, hchars⟩ := hread.wide b rest chars taken hb hstart
      rw [← List.take_append_drop taken rest]
      exact .wide hb hfollow hchars ih

theorem Reader.decode?_cons {read : Reader} (hstart : read b rest = some (chars, taken)) :
    read.decode? (b :: rest) = (read.decode? (rest.drop taken)).map (chars ++ ·) := by
  rw [Reader.decode?, hstart]

/-- A text in ASCII is read as it is. -/
theorem Reader.Keeps.decode?_ascii {read : Reader} (hread : read.Keeps followers)
    (h : IsAscii bytes) : read.decode? bytes = some (bytes.map fun b => Char.ofNat b.toNat) := by
  induction bytes with
  | nil => rw [Reader.decode?, List.map_nil]
  | cons b bytes ih =>
    obtain ⟨hb, h⟩ := isAscii_cons.1 h
    rw [Reader.decode?_cons (hread.ascii b bytes hb), List.drop_zero, ih h]
    rfl

theorem Reader.one_eq_some_iff {c : Option Char} {n : Nat} :
    Reader.one c n = some (chars, taken) ↔ (∃ char, c = some char ∧ [char] = chars) ∧ n = taken := by
  cases c <;> simp [Reader.one]

theorem within_iff {first last : UInt8} :
    within first last b = true ↔ first.toNat ≤ b.toNat ∧ b.toNat ≤ last.toNat := by
  simp [within, UInt8.le_iff_toNat_le]

theorem isLine_halfWidth (b : UInt8) : IsLine [halfWidth b] := isLine_ofNat (by omega) (by omega)

theorem not_lt_of_high (h : 0x80 ≤ b.toNat) : ¬ b < 0x80 := by
  rw [UInt8.lt_iff_toNat_lt]
  exact Nat.not_lt_of_le h

theorem high_of_isHigh (h : isHigh b = true) : 0x80 ≤ b.toNat :=
  Nat.le_trans (by decide) (within_iff.1 h).1

theorem paired_nil : Paired [] := .inr (List.forall_mem_nil _)

/-! ### Japanese -/

theorem isLine_shiftJisPair? {trail : UInt8} {c : Char} (h : shiftJisPair? b trail = some c) :
    IsLine [c] := by
  unfold shiftJisPair? at h
  split at h
  · dsimp only at h
    split at h
    · rw [← Option.some.inj h]
      exact isLine_ofNat (by omega) (by omega)
    · exact Table.isLineFree_jis0208.isLine h
  · cases h

theorem keeps_shiftJis : Reader.shiftJis.Keeps Paired where
  ascii b rest hb := if_pos (UInt8.le_iff_toNat_le.2 (Nat.le_of_lt hb))
  wide b rest chars taken hb h := by
    unfold Reader.shiftJis at h
    split at h
    · cases h
      exact ⟨paired_nil, isLine_ofNat (by omega) (by omega)⟩
    · split at h
      · cases h
        exact ⟨paired_nil, isLine_halfWidth b⟩
      · split at h
        · cases rest with
          | nil => cases h
          | cons trail rest =>
            obtain ⟨⟨c, hc, rfl⟩, rfl⟩ := Reader.one_eq_some_iff.1 h
            exact ⟨.inl rfl, isLine_shiftJisPair? hc⟩
        · cases h

theorem keeps_eucJp : Reader.eucJp.Keeps High where
  ascii b rest hb := if_pos (UInt8.lt_iff_toNat_lt.2 hb)
  wide b rest chars taken hb h := by
    unfold Reader.eucJp at h
    rw [if_neg (not_lt_of_high hb)] at h
    cases rest with
    | nil => cases h
    | cons c more =>
      have hsingle (hc : 0x80 ≤ c.toNat) : High ((c :: more).take 1) := by
        simpa [High] using hc
      dsimp only at h
      split at h
      next hkana =>
        obtain ⟨-, hc⟩ := (Bool.and_eq_true _ _).mp hkana
        have hc := within_iff.1 hc
        cases h
        exact ⟨hsingle (by simp at hc; omega), isLine_halfWidth c⟩
      · split at h
        next hthree =>
          cases more with
          | nil => cases h
          | cons d more =>
            obtain ⟨-, hc⟩ := (Bool.and_eq_true _ _).mp hthree
            obtain ⟨hd, h⟩ := Option.ite_none_right_eq_some.1 h
            obtain ⟨⟨char, hchar, rfl⟩, rfl⟩ := Reader.one_eq_some_iff.1 h
            have hmore : High [c, d] := by
              simp [High, high_of_isHigh hc, high_of_isHigh hd]
            exact ⟨hmore, Table.isLineFree_jis0212.isLine hchar⟩
        next =>
          obtain ⟨hpair, h⟩ := Option.ite_none_right_eq_some.1 h
          obtain ⟨-, hc⟩ := (Bool.and_eq_true _ _).mp hpair
          obtain ⟨⟨char, hchar, rfl⟩, rfl⟩ := Reader.one_eq_some_iff.1 h
          exact ⟨hsingle (high_of_isHigh hc), Table.isLineFree_jis0208.isLine hchar⟩

/-! ### Korean, Taiwanese and Chinese -/

theorem keeps_eucKr : Reader.eucKr.Keeps Paired where
  ascii b rest hb := if_pos (UInt8.lt_iff_toNat_lt.2 hb)
  wide b rest chars taken hb h := by
    unfold Reader.eucKr at h
    rw [if_neg (not_lt_of_high hb)] at h
    cases rest with
    | nil => cases h
    | cons trail rest =>
      obtain ⟨-, h⟩ := Option.ite_none_right_eq_some.1 h
      obtain ⟨⟨c, hc, rfl⟩, rfl⟩ := Reader.one_eq_some_iff.1 h
      exact ⟨.inl rfl, Table.isLineFree_korean.isLine hc⟩

theorem isLine_big5Marked : ∀ entry ∈ big5Marked, IsLine entry.2 := by
  simp [big5Marked, Text.isLine_cons, Text.isLine_nil]

theorem keeps_big5 : Reader.big5.Keeps Paired where
  ascii b rest hb := if_pos (UInt8.lt_iff_toNat_lt.2 hb)
  wide b rest chars taken hb h := by
    unfold Reader.big5 at h
    rw [if_neg (not_lt_of_high hb)] at h
    cases rest with
    | nil => cases h
    | cons trail rest =>
      obtain ⟨-, h⟩ := Option.ite_none_right_eq_some.1 h
      dsimp only at h
      split at h
      next found =>
        cases h
        obtain ⟨front, back, heq, -⟩ := List.lookup_eq_some_iff.1 found
        have hmem : (_, chars) ∈ big5Marked := heq ▸ List.mem_append_right front List.mem_cons_self
        exact ⟨.inl rfl, isLine_big5Marked _ hmem⟩
      · obtain ⟨⟨c, hc, rfl⟩, rfl⟩ := Reader.one_eq_some_iff.1 h
        exact ⟨.inl rfl, Table.isLineFree_big5.isLine hc⟩

theorem isLine_userDefined? {trail : UInt8} {c : Char} (h : userDefined? b trail = some c) :
    IsLine [c] := by
  unfold userDefined? at h
  split at h
  · rw [← Option.some.inj h]
    exact isLine_ofNat (by omega) (by omega)
  · split at h
    · rw [← Option.some.inj h]
      exact isLine_ofNat (by omega) (by omega)
    · split at h
      · rw [← Option.some.inj h]
        exact isLine_ofNat (by omega) (by omega)
      · cases h

theorem isLine_chinesePair? {trail : UInt8} {c : Char} (h : chinesePair? b trail = some c) :
    IsLine [c] := by
  obtain ⟨-, h⟩ := Option.ite_none_right_eq_some.1 h
  rcases Option.or_eq_some_iff.1 h with h | ⟨-, h⟩
  · exact Table.isLineFree_chinese.isLine h
  · exact isLine_userDefined? h

/-- The numbering of characters of four bytes starts behind ASCII. -/
theorem le_of_mem_skips : ∀ entry ∈ skips, 0x80 ≤ entry.2 := by
  decide +kernel

theorem isLine_quadChar? {n : Nat} {c : Char} (h : quadChar? n = some c) : IsLine [c] := by
  unfold quadChar? at h
  split at h
  · obtain ⟨-, h⟩ := Option.ite_none_right_eq_some.1 h
    rw [← Option.some.inj h]
    exact isLine_ofNat (by omega) (by omega)
  · split at h
    · cases h
    · split at h
      · rw [← Option.some.inj h]
        exact isLine_ofNat (n := 0xE7C7) (by decide) (by decide)
      · obtain ⟨entry, hentry, rfl⟩ := Option.map_eq_some_iff.1 h
        rw [List.findRev?_eq_find?_reverse] at hentry
        have hmem : entry ∈ skips := List.mem_reverse.1 (List.mem_of_find?_eq_some hentry)
        have hle := le_of_mem_skips entry hmem
        exact isLine_ofNat (by omega) (by omega)

theorem keeps_gb18030 : Reader.gb18030.Keeps Paired where
  ascii b rest hb := if_pos (UInt8.lt_iff_toNat_lt.2 hb)
  wide b rest chars taken hb h := by
    unfold Reader.gb18030 at h
    rw [if_neg (not_lt_of_high hb)] at h
    split at h
    · cases h
      exact ⟨paired_nil, isLine_ofNat (n := 0x20AC) (by decide) (by decide)⟩
    · cases rest with
      | nil => cases h
      | cons c more =>
        dsimp only at h
        split at h
        next hc =>
          split at h
          next d e more =>
            obtain ⟨hquad, h⟩ := Option.ite_none_right_eq_some.1 h
            rw [Bool.and_eq_true, Bool.and_eq_true] at hquad
            obtain ⟨⟨-, hd⟩, he⟩ := hquad
            obtain ⟨⟨char, hchar, rfl⟩, rfl⟩ := Reader.one_eq_some_iff.1 h
            have hc := (within_iff.1 hc).2
            have hd := (within_iff.1 hd).1
            have he := (within_iff.1 he).2
            -- The bytes of four are told by their digits in the second and the last place.
            have hmore : Paired [c, d, e] := by
              refine .inr ?_
              simp at hc hd he ⊢
              omega
            exact ⟨hmore, isLine_quadChar? hchar⟩
          · cases h
        next =>
          obtain ⟨⟨char, hchar, rfl⟩, rfl⟩ := Reader.one_eq_some_iff.1 h
          exact ⟨.inl rfl, isLine_chinesePair? hchar⟩

/-! ## Charsets with modes -/

theorem IsAscii.decode?_utf8 (h : IsAscii bytes) :
    Text.Utf8.decode? bytes = some (bytes.map fun b => Char.ofNat b.toNat) := by
  induction bytes with
  | nil => rw [Text.Utf8.decode?, List.map_nil]
  | cons b bytes ih =>
    obtain ⟨hb, h⟩ := isAscii_cons.1 h
    rw [Text.Utf8.decode?_of_next (Text.Utf8.next_one hb), ih h]
    rfl

theorem lt_of_beq {n : UInt8} (h : (b == n) = true) (hn : n.toNat < 0x80) : b.toNat < 0x80 :=
  beq_iff_eq.1 h ▸ hn

theorem lt_of_within {first last : UInt8} (h : within first last b = true)
    (hlast : last.toNat < 0x80) : b.toNat < 0x80 :=
  Nat.lt_of_le_of_lt (within_iff.1 h).2 hlast

namespace Hz

theorem isAscii_of_pair? {pairs : Pairs} {a b : UInt8} {c : Char} (h : pair? pairs a b = some c) :
    a.toNat < 0x80 ∧ b.toNat < 0x80 := by
  obtain ⟨hboth, -⟩ := Option.ite_none_right_eq_some.1 h
  rw [Bool.and_eq_true] at hboth
  exact ⟨lt_of_within hboth.1 (by decide), lt_of_within hboth.2 (by decide)⟩

theorem isAscii_of_decodeFrom {pairs : Pairs} {inSpan : Bool}
    (h : decodeFrom pairs inSpan bytes = some text) : IsAscii bytes := by
  fun_induction decodeFrom pairs inSpan bytes generalizing text with
  | case1 => exact isAscii_nil
  | case3 a ha b more hb ih =>
    exact isAscii_cons.2 ⟨lt_of_beq ha (by decide), isAscii_cons.2 ⟨lt_of_beq hb (by decide), ih h⟩⟩
  | case5 inSpan a ha b more hspan hb ih =>
    obtain ⟨text, htext, rfl⟩ := Option.map_eq_some_iff.1 h
    exact isAscii_cons.2
      ⟨lt_of_beq ha (by decide), isAscii_cons.2 ⟨lt_of_beq hb (by decide), ih htext⟩⟩
  | case6 inSpan a ha b more hspan htilde hb ih =>
    exact isAscii_cons.2 ⟨lt_of_beq ha (by decide), isAscii_cons.2 ⟨lt_of_beq hb (by decide), ih h⟩⟩
  | case7 inSpan a ha b more hspan htilde hlf hb ih =>
    exact isAscii_cons.2 ⟨lt_of_beq ha (by decide), isAscii_cons.2 ⟨lt_of_beq hb (by decide), ih h⟩⟩
  | case10 a ha b more ih =>
    obtain ⟨char, hpair, h⟩ := Option.bind_eq_some_iff.1 h
    obtain ⟨text, htext, rfl⟩ := Option.map_eq_some_iff.1 h
    obtain ⟨ha, hb⟩ := isAscii_of_pair? hpair
    exact isAscii_cons.2 ⟨ha, isAscii_cons.2 ⟨hb, ih htext⟩⟩
  | case11 inSpan a rest htilde hspan ha ih =>
    obtain ⟨text, htext, rfl⟩ := Option.map_eq_some_iff.1 h
    exact isAscii_cons.2 ⟨UInt8.lt_iff_toNat_lt.1 ha, ih htext⟩
  | case2 | case4 | case8 | case9 | case12 => cases h

end Hz

namespace Iso2022Jp

theorem isAscii_of_mode? {a b : UInt8} {mode : Mode} (h : mode? a b = some mode) :
    a.toNat < 0x80 ∧ b.toNat < 0x80 := by
  simp only [mode?, Bool.and_eq_true, Bool.or_eq_true, beq_iff_eq, ← UInt8.toNat_inj,
    UInt8.reduceToNat] at h
  repeat' split at h
  all_goals first | omega | cases h

theorem isAscii_of_char? {mode : Mode} {c : Char} (h : char? mode b = some c) : b.toNat < 0x80 := by
  cases mode with
  | katakana => exact lt_of_within (Option.ite_none_right_eq_some.1 h).1 (by decide)
  | kanji => cases h
  | ascii | roman =>
    obtain ⟨hb, -⟩ := Option.ite_none_left_eq_some.1 h
    simp only [Bool.or_eq_true, decide_eq_true_eq, not_or] at hb
    exact UInt8.lt_iff_toNat_lt.1 (UInt8.not_le.1 hb.1.1)

theorem isAscii_of_pair? {a b : UInt8} {c : Char} (h : pair? a b = some c) :
    a.toNat < 0x80 ∧ b.toNat < 0x80 := by
  obtain ⟨hboth, -⟩ := Option.ite_none_right_eq_some.1 h
  rw [Bool.and_eq_true] at hboth
  exact ⟨lt_of_within hboth.1 (by decide), lt_of_within hboth.2 (by decide)⟩

theorem isAscii_of_decodeFrom {mode : Mode} {switched : Bool}
    (h : decodeFrom mode switched bytes = some text) : IsAscii bytes := by
  fun_induction decodeFrom mode switched bytes generalizing text with
  | case1 => exact isAscii_nil
  | case2 => cases h
  | case3 mode switched b hb c d more hswitched ih =>
    obtain ⟨mode, hmode, h⟩ := Option.bind_eq_some_iff.1 h
    obtain ⟨hc, hd⟩ := isAscii_of_mode? hmode
    have hb : b.toNat < 0x80 := lt_of_beq hb (by decide)
    exact isAscii_cons.2 ⟨hb, isAscii_cons.2 ⟨hc, isAscii_cons.2 ⟨hd, ih mode h⟩⟩⟩
  | case4 => cases h
  | case5 mode switched b hb hkanji c more ih =>
    obtain ⟨char, hpair, h⟩ := Option.bind_eq_some_iff.1 h
    obtain ⟨text, htext, rfl⟩ := Option.map_eq_some_iff.1 h
    obtain ⟨hb, hc⟩ := isAscii_of_pair? hpair
    exact isAscii_cons.2 ⟨hb, isAscii_cons.2 ⟨hc, ih htext⟩⟩
  | case6 => cases h
  | case7 mode switched b rest hb hkanji ih =>
    obtain ⟨char, hchar, h⟩ := Option.bind_eq_some_iff.1 h
    obtain ⟨text, htext, rfl⟩ := Option.map_eq_some_iff.1 h
    exact isAscii_cons.2 ⟨isAscii_of_char? hchar, ih htext⟩

end Iso2022Jp

/-! ## All charsets -/

/-- Whether an ASCII byte may be the second of a pair. -/
def pairsAscii : Charset → Bool
  | shiftJis | eucKr | gb18030 | gbk | big5 => true
  | _ => false

/-- What may follow the first byte of a stretch. -/
def Follows (charset : Charset) : List UInt8 → Prop := if charset.pairsAscii then Paired else High

theorem Spells.high {charset : Charset} (h : Spells charset.Follows bytes text)
    (hpairs : charset.pairsAscii = false) : Spells High bytes text := by
  rw [Follows, hpairs] at h
  exact h

theorem Spells.paired {charset : Charset} (h : Spells charset.Follows bytes text) :
    Spells Paired bytes text := by
  refine h.mono fun more hmore => ?_
  unfold Follows at hmore
  split at hmore
  · exact hmore
  · exact hmore.paired

/-- **How bytes relate to their text**: UTF-16 and UTF-32 have their own ways; what is left keeps
ASCII, or is ASCII altogether. -/
theorem decode?_cases {charset : Charset} (h : charset.decode? bytes = some text) :
    (∃ order, charset = utf16 order) ∨ (∃ order, charset = utf32 order) ∨ IsAscii bytes ∨
      Spells charset.Follows bytes text := by
  cases charset with
  | utf16 order => exact .inl ⟨order, rfl⟩
  | utf32 order => exact .inr (.inl ⟨order, rfl⟩)
  | iso2022Jp => exact .inr (.inr (.inl (Iso2022Jp.isAscii_of_decodeFrom h)))
  | hz => exact .inr (.inr (.inl (Hz.isAscii_of_decodeFrom h)))
  | utf8 => exact .inr (.inr (.inr (spells_utf8 h)))
  | singleByte charset => exact .inr (.inr (.inr (SingleByte.spells h)))
  | logicalHebrew => exact .inr (.inr (.inr (SingleByte.spells h)))
  | shiftJis => exact .inr (.inr (.inr (keeps_shiftJis.spells h)))
  | eucJp => exact .inr (.inr (.inr (keeps_eucJp.spells h)))
  | eucKr => exact .inr (.inr (.inr (keeps_eucKr.spells h)))
  | gb18030 | gbk => exact .inr (.inr (.inr (keeps_gb18030.spells h)))
  | big5 => exact .inr (.inr (.inr (keeps_big5.spells h)))

/-- Bytes that are ASCII are UTF-8 and decoded as that, so no other charset has them. -/
theorem decodeWith_cases {guess : Guess} {charset : Charset}
    (h : decodeWith guess bytes = .ok (.text text charset)) :
    (∃ order, charset = utf16 order ∧ Text.Utf16.decode? order bytes = some text) ∨
      (∃ order, charset = utf32 order ∧ Text.Utf32.decode? order bytes = some text) ∨
      Spells charset.Follows bytes text := by
  obtain ⟨hselect, hdecode, -⟩ := select?_of_decodeWith h
  rcases decode?_cases hdecode with ⟨order, rfl⟩ | ⟨order, rfl⟩ | hascii | hspells
  · exact .inl ⟨order, rfl, hdecode⟩
  · exact .inr (.inl ⟨order, rfl, hdecode⟩)
  · have hutf8 : charset = utf8 := by
      rw [select?_of_decode?_utf8 guess hascii.decode?_utf8] at hselect
      exact (Option.some.inj hselect).symm
    rw [hutf8] at hdecode ⊢
    exact .inr (.inr (spells_utf8 hdecode))
  · exact .inr (.inr hspells)

end StyleCheck.Charset
