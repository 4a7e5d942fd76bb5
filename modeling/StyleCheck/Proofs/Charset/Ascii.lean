import StyleCheck.Charset.Basic
import StyleCheck.Proofs.Charset.Tables
import StyleCheck.Proofs.Text.Utf8

/-!
# Charsets that keep ASCII

In the charsets that keep ASCII a text is stored in stretches (`Spells`). A byte below `0x80` is a
stretch of its own and stands for the ASCII character with its number. Any other byte begins a
stretch that stands for characters that end no line; the charset says which bytes may follow it
there: none below `0x80` (`High`), or one of any kind (`Paired`).

So a word of ASCII among the bytes is the same word in the text, unless it begins inside a stretch
(`Spells.cut`, `Spells.append_ascii`). Where only high bytes follow it never does, and where pairs
are used it does so only as the second byte of a pair.
-/

namespace StyleCheck.Charset

open Text (IsLine)

variable {followers : List UInt8 → Prop} {b : UInt8} {bytes before after rest word : List UInt8}
  {chars text : List Char} {n : Nat}

/-! ## Stretches -/

/-- No byte ends a line. -/
def IsByteLine (bytes : List UInt8) : Prop := 0x0A ∉ bytes ∧ 0x0D ∉ bytes

instance : Decidable (IsByteLine bytes) := inferInstanceAs (Decidable (_ ∧ _))

theorem isByteLine_iff : IsByteLine bytes ↔ ∀ b ∈ bytes, b.toNat ≠ 10 ∧ b.toNat ≠ 13 := by
  have hne (c : UInt8) : c ∉ bytes ↔ ∀ b ∈ bytes, b.toNat ≠ c.toNat :=
    ⟨fun hc b hb heq => hc (UInt8.toNat_inj.1 heq ▸ hb), fun h hc => h c hc rfl⟩
  rw [IsByteLine, hne, hne]
  exact ⟨fun h b hb => ⟨h.1 b hb, h.2 b hb⟩, fun h => ⟨fun b hb => (h b hb).1,
    fun b hb => (h b hb).2⟩⟩

theorem isByteLine_append :
    IsByteLine (before ++ after) ↔ IsByteLine before ∧ IsByteLine after := by
  simp only [isByteLine_iff, List.forall_mem_append]

theorem isByteLine_cons :
    IsByteLine (b :: bytes) ↔ (b.toNat ≠ 10 ∧ b.toNat ≠ 13) ∧ IsByteLine bytes := by
  simp only [isByteLine_iff, List.forall_mem_cons]

/-- All bytes are ASCII. -/
def IsAscii (bytes : List UInt8) : Prop := ∀ b ∈ bytes, b.toNat < 0x80

instance : Decidable (IsAscii bytes) := List.decidableBAll _ _

theorem isAscii_nil : IsAscii [] := List.forall_mem_nil _

theorem isAscii_cons : IsAscii (b :: bytes) ↔ b.toNat < 0x80 ∧ IsAscii bytes :=
  List.forall_mem_cons

/-- How bytes store a text in a charset that keeps ASCII, where `followers` tells what may follow
the first byte of a stretch. -/
inductive Spells (followers : List UInt8 → Prop) : List UInt8 → List Char → Prop
  | nil : Spells followers [] []
  | ascii {b : UInt8} {bytes : List UInt8} {text : List Char} : b.toNat < 0x80 →
    Spells followers bytes text → Spells followers (b :: bytes) (Char.ofNat b.toNat :: text)
  | wide {b : UInt8} {more bytes : List UInt8} {chars text : List Char} : 0x80 ≤ b.toNat →
    followers more → IsLine chars → Spells followers bytes text →
    Spells followers (b :: (more ++ bytes)) (chars ++ text)

/-- Only bytes that are no ASCII follow. -/
def High (more : List UInt8) : Prop := ∀ b ∈ more, 0x80 ≤ b.toNat

/-- A single byte of any kind follows, or several without letters. -/
def Paired (more : List UInt8) : Prop :=
  more.length = 1 ∨ ∀ b ∈ more, b.toNat < 0x3A ∨ 0x80 ≤ b.toNat

theorem High.paired {more : List UInt8} (h : High more) : Paired more :=
  .inr fun b hb => .inr (h b hb)

theorem Spells.mono {others : List UInt8 → Prop} (h : Spells followers bytes text)
    (hsub : ∀ more, followers more → others more) : Spells others bytes text := by
  induction h with
  | nil => exact .nil
  | ascii hb _ ih => exact .ascii hb ih
  | wide hb hmore hchars _ ih => exact .wide hb (hsub _ hmore) hchars ih

theorem isInLine_ofNat (hlf : n ≠ 10) (hcr : n ≠ 13) : Text.isInLine (Char.ofNat n) = true := by
  have hne : ∀ c : Char, c.toNat ≠ 0 → n ≠ c.toNat → Char.ofNat n ≠ c := by
    rintro c hzero hn rfl
    by_cases h : n.isValidChar
    · exact hn (Text.Utf8.toNat_val_ofNat h).symm
    · rw [Char.ofNat, dif_neg h] at hzero
      exact hzero rfl
  exact Text.isInLine_iff.2 ⟨hne '\n' (by decide) hlf, hne '\r' (by decide) hcr⟩

theorem isLine_ofNat (hlf : n ≠ 10) (hcr : n ≠ 13) : IsLine [Char.ofNat n] :=
  Text.isLine_iff.2 (List.forall_mem_singleton.2 (isInLine_ofNat hlf hcr))

theorem Spells.cons_ascii (h : Spells followers (b :: bytes) text) (hb : b.toNat < 0x80) :
    ∃ back, text = Char.ofNat b.toNat :: back ∧ Spells followers bytes back := by
  generalize heq : b :: bytes = all at h
  cases h with
  | nil => cases heq
  | ascii _ hrest =>
    cases heq
    exact ⟨_, rfl, hrest⟩
  | wide hhigh =>
    cases heq
    exact absurd hb (Nat.not_lt_of_le hhigh)

theorem Spells.append_ascii (h : Spells followers (word ++ rest) text)
    (hword : IsAscii word) :
    ∃ back, text = word.map (fun b => Char.ofNat b.toNat) ++ back ∧ Spells followers rest back := by
  induction word generalizing text with
  | nil => exact ⟨text, rfl, h⟩
  | cons b word ih =>
    obtain ⟨hb, hword⟩ := isAscii_cons.1 hword
    obtain ⟨text, rfl, hrest⟩ := h.cons_ascii hb
    obtain ⟨back, rfl, hback⟩ := ih hrest hword
    exact ⟨back, rfl, hback⟩

/-- **Before a byte of a line the text can be cut**, or the byte lies in a stretch that begins
before it. -/
theorem Spells.cut (h : Spells followers bytes text) (heq : bytes = before ++ b :: after)
    (hbefore : IsByteLine before) :
    (∃ front back, text = front ++ back ∧ IsLine front ∧ Spells followers (b :: after) back) ∨
    ∃ start lead x y rest front back, before = start ++ lead :: x ∧ 0x80 ≤ lead.toNat ∧
      after = y ++ rest ∧ followers (x ++ b :: y) ∧ text = front ++ back ∧ IsLine front ∧
      Spells followers rest back := by
  induction h generalizing before with
  | nil => simp at heq
  | @ascii c bytes text hc hrest ih =>
    cases before with
    | nil =>
      cases heq
      exact .inl ⟨[], _, rfl, Text.isLine_nil, .ascii hc hrest⟩
    | cons d before =>
      obtain ⟨rfl, hbytes⟩ := List.cons.inj heq
      obtain ⟨hd, hbefore⟩ := isByteLine_cons.1 hbefore
      have hline : IsLine [Char.ofNat c.toNat] := isLine_ofNat hd.1 hd.2
      rcases ih hbytes hbefore with ⟨front, back, rfl, hfront, hback⟩ |
        ⟨start, lead, x, y, rest, front, back, rfl, hlead, rfl, hmore, rfl, hfront, hback⟩
      · exact .inl ⟨_ :: front, back, rfl, Text.isLine_append.2 ⟨hline, hfront⟩, hback⟩
      · exact .inr ⟨c :: start, lead, x, y, rest, _ :: front, back, rfl, hlead, rfl, hmore, rfl,
          Text.isLine_append.2 ⟨hline, hfront⟩, hback⟩
  | @wide c more bytes chars text hc hmore hchars hrest ih =>
    cases before with
    | nil =>
      cases heq
      exact .inl ⟨[], _, rfl, Text.isLine_nil, .wide hc hmore hchars hrest⟩
    | cons d before =>
      obtain ⟨rfl, hbytes⟩ := List.cons.inj heq
      obtain ⟨-, hbefore⟩ := isByteLine_cons.1 hbefore
      -- The byte lies behind the stretch, or is the first one after it, or is one of its bytes.
      rcases List.append_eq_append_iff.1 hbytes with ⟨between, rfl, hbehind⟩ | ⟨tail, rfl, htail⟩
      · obtain ⟨-, hbetween⟩ := isByteLine_append.1 hbefore
        rcases ih hbehind hbetween with ⟨front, back, rfl, hfront, hback⟩ |
          ⟨start, lead, x, y, rest, front, back, rfl, hlead, rfl, hfollow, rfl, hfront, hback⟩
        · exact .inl ⟨chars ++ front, back, (List.append_assoc ..).symm,
            Text.isLine_append.2 ⟨hchars, hfront⟩, hback⟩
        · exact .inr ⟨c :: (more ++ start), lead, x, y, rest, chars ++ front, back,
            by simp, hlead, rfl, hfollow, (List.append_assoc ..).symm,
            Text.isLine_append.2 ⟨hchars, hfront⟩, hback⟩
      · cases tail with
        | nil =>
          rw [List.nil_append] at htail
          exact .inl ⟨chars, text, rfl, hchars, htail ▸ hrest⟩
        | cons e y =>
          obtain ⟨rfl, rfl⟩ := List.cons.inj htail
          exact .inr ⟨[], c, before, y, bytes, chars, text, rfl, hc, rfl, hmore, rfl, hchars, hrest⟩

end StyleCheck.Charset
