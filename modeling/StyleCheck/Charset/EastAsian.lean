import StyleCheck.Charset.Reader
import StyleCheck.Charset.Table.Big5
import StyleCheck.Charset.Table.Jis0208
import StyleCheck.Charset.Table.Jis0212
import StyleCheck.Charset.Table.Korean

/-!
# East Asian charsets

The charsets that mix ASCII with characters of two or three bytes: two Japanese ones, a Korean one,
and that of Taiwan and Hong Kong, which need no modes; and a Japanese one with modes.
-/

namespace StyleCheck.Charset

/-! ## Charsets without modes

A first byte from `0x80` on says how many bytes follow; those bytes number a character of a table. -/

/-- The half-width katakana that a byte from `0xA1` to `0xDF` stands for. -/
def halfWidth (b : UInt8) : Char := Char.ofNat (0xFF61 + (b.toNat - 0xA1))

/-! ## Shift_JIS -/

/-- The number of a pair of bytes. The first bytes fall into two ranges and the second bytes leave
`0x7F` out. -/
def shiftJisNumber (lead trail : UInt8) : Nat :=
  let high := if lead < 0xA0 then lead.toNat - 0x81 else lead.toNat - 0xC1
  let low := if trail < 0x7F then trail.toNat - 0x40 else trail.toNat - 0x41
  high * 188 + low

/-- The character of a pair of bytes. Numbers between the two parts of the table are private
characters. -/
def shiftJisPair? (lead trail : UInt8) : Option Char :=
  if within 0x40 0x7E trail || within 0x80 0xFC trail then
    let number := shiftJisNumber lead trail
    if 8836 ≤ number ∧ number ≤ 10715 then some (Char.ofNat (0xE000 + (number - 8836)))
    else Table.jis0208.at? number
  else none

/-- ASCII and `0x80`, half-width katakana in one byte, and pairs. -/
def Reader.shiftJis : Reader := fun b rest =>
  if b ≤ 0x80 then Reader.ascii b
  else if within 0xA1 0xDF b then some ([halfWidth b], 0)
  else if within 0x81 0x9F b || within 0xE0 0xFC b then
    match rest with
    | trail :: _ => Reader.one (shiftJisPair? b trail) 1
    | [] => none
  else none

/-! ## EUC-JP -/

/-- The number of a pair of bytes from `0xA1` to `0xFE`. -/
def eucNumber (lead trail : UInt8) : Nat := (lead.toNat - 0xA1) * 94 + (trail.toNat - 0xA1)

/-- The bytes of a pair with the high bits set. -/
def isHigh (b : UInt8) : Bool := within 0xA1 0xFE b

/-- ASCII, half-width katakana after `0x8E`, the supplementary set after `0x8F`, and pairs. -/
def Reader.eucJp : Reader := fun b rest =>
  if b < 0x80 then Reader.ascii b
  else match rest with
    | [] => none
    | c :: more =>
      if b == 0x8E && within 0xA1 0xDF c then some ([halfWidth c], 1)
      else if b == 0x8F && isHigh c then
        match more with
        | d :: _ => if isHigh d then Reader.one (Table.jis0212.at? (eucNumber c d)) 2 else none
        | [] => none
      else if isHigh b && isHigh c then Reader.one (Table.jis0208.at? (eucNumber b c)) 1
      else none

/-! ## EUC-KR -/

/-- ASCII and pairs. -/
def Reader.eucKr : Reader := fun b rest =>
  if b < 0x80 then Reader.ascii b
  else match rest with
    | [] => none
    | trail :: _ =>
      if within 0x81 0xFE b && within 0x41 0xFE trail then
        Reader.one (Table.korean.at? ((b.toNat - 0x81) * 190 + (trail.toNat - 0x41))) 1
      else none

/-! ## Big5 -/

/-- The pairs that stand for a letter with a combining mark. -/
def big5Marked : List (Nat × List Char) :=
  [(1133, ['Ê', '\u0304']), (1135, ['Ê', '\u030C']), (1164, ['ê', '\u0304']),
    (1166, ['ê', '\u030C'])]

/-- ASCII and pairs, a few of which stand for two characters. -/
def Reader.big5 : Reader := fun b rest =>
  if b < 0x80 then Reader.ascii b
  else match rest with
    | [] => none
    | trail :: _ =>
      if within 0x81 0xFE b && (within 0x40 0x7E trail || within 0xA1 0xFE trail) then
        let low := if trail < 0x7F then trail.toNat - 0x40 else trail.toNat - 0x62
        let number := (b.toNat - 0x81) * 157 + low
        match big5Marked.lookup number with
        | some chars => some (chars, 1)
        | none => Reader.one (Table.big5.at? number) 1
      else none

end StyleCheck.Charset

namespace StyleCheck.Charset.Iso2022Jp

/-! ## ISO-2022-JP

A charset of seven-bit bytes. Escape sequences of three bytes switch between four sets; at least one
character comes between two of them. The charset starts in ASCII and may end in any set. -/

/-- The set in force. -/
inductive Mode
  | ascii
  /-- ASCII with a yen sign and an overline. -/
  | roman
  | katakana
  /-- Pairs of bytes. -/
  | kanji
  deriving DecidableEq, Repr

/-- The set that the two bytes after an escape choose. -/
def mode? (a b : UInt8) : Option Mode :=
  if a == 0x28 && b == 0x42 then some .ascii
  else if a == 0x28 && b == 0x4A then some .roman
  else if a == 0x28 && b == 0x49 then some .katakana
  else if a == 0x24 && (b == 0x40 || b == 0x42) then some .kanji
  else none

/-- The character of a single byte. The bytes that shift between sets elsewhere are refused. -/
def char? (mode : Mode) (b : UInt8) : Option Char :=
  match mode with
  | .katakana => if within 0x21 0x5F b then some (Char.ofNat (0xFF61 + (b.toNat - 0x21))) else none
  | .kanji => none
  | .ascii | .roman =>
    if 0x80 ≤ b || b == 0x0E || b == 0x0F then none
    else if mode == .roman && b == 0x5C then some '¥'
    else if mode == .roman && b == 0x7E then some '‾'
    else some (Char.ofNat b.toNat)

/-- The character of a pair of bytes. -/
def pair? (a b : UInt8) : Option Char :=
  if within 0x21 0x7E a && within 0x21 0x7E b then
    Table.jis0208.at? ((a.toNat - 0x21) * 94 + (b.toNat - 0x21))
  else none

/-- The text of the bytes that follow. `switched` says that an escape sequence comes directly
before them. -/
def decodeFrom (mode : Mode) (switched : Bool) : List UInt8 → Option (List Char)
  | [] => some []
  | b :: rest =>
    if b == 0x1B then
      match rest with
      | c :: d :: more =>
        if switched then none else (mode? c d).bind fun mode => decodeFrom mode true more
      | _ => none
    else if mode == .kanji then
      match rest with
      | c :: more =>
        (pair? b c).bind fun char => (decodeFrom mode false more).map (char :: ·)
      | [] => none
    else (char? mode b).bind fun char => (decodeFrom mode false rest).map (char :: ·)

/-- The text of a byte string. -/
def decode? (bytes : List UInt8) : Option (List Char) := decodeFrom .ascii false bytes

end StyleCheck.Charset.Iso2022Jp
