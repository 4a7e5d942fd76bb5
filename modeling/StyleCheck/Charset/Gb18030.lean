import StyleCheck.Charset.Reader
import StyleCheck.Charset.Table.Chinese

/-!
# GB 18030 and HZ

The Chinese charset that covers all of Unicode, and one of seven-bit bytes.
-/

namespace StyleCheck.Charset

/-! ## GB 18030

ASCII, pairs of bytes for the characters in common use, and four bytes for all others. The
characters of four bytes are numbered in the order of Unicode, with those left out that have two
bytes. -/

/-! ### Pairs -/

/-- The private characters of the areas that are kept free for users: two areas of rows of 94 and
one of rows of 96. -/
def userDefined? (lead trail : UInt8) : Option Char :=
  if within 0xAA 0xAF lead && 0xA1 ≤ trail then
    some (Char.ofNat (0xE000 + 94 * (lead.toNat - 0xAA) + (trail.toNat - 0xA1)))
  else if 0xF8 ≤ lead && 0xA1 ≤ trail then
    some (Char.ofNat (0xE234 + 94 * (lead.toNat - 0xF8) + (trail.toNat - 0xA1)))
  else if within 0xA1 0xA7 lead && trail ≤ 0xA0 then
    let column := if trail < 0x7F then trail.toNat - 0x40 else trail.toNat - 0x41
    some (Char.ofNat (0xE4C6 + 96 * (lead.toNat - 0xA1) + column))
  else none

/-- The character of a pair of bytes. -/
def chinesePair? (lead trail : UInt8) : Option Char :=
  if within 0x81 0xFE lead && (within 0x40 0x7E trail || within 0x80 0xFE trail) then
    let column := if trail < 0x7F then trail.toNat - 0x40 else trail.toNat - 0x41
    (Table.chinese.at? ((lead.toNat - 0x81) * 190 + column)).or (userDefined? lead trail)
  else none

/-! ### Four bytes -/

/-- Where the numbering of characters of four bytes skips ahead: a number, and the code point from
which the numbering goes on there. -/
def skips : List (Nat × Nat) :=
  [(0, 0x80), (36, 0xA5), (38, 0xA9), (45, 0xB2), (50, 0xB8), (81, 0xD8), (89, 0xE2), (95, 0xEB),
    (96, 0xEE), (100, 0xF4), (103, 0xF8), (104, 0xFB), (105, 0xFD), (109, 0x102), (126, 0x114),
    (133, 0x11C), (148, 0x12C), (172, 0x145), (175, 0x149), (179, 0x14E), (208, 0x16C),
    (306, 0x1CF), (307, 0x1D1), (308, 0x1D3), (309, 0x1D5), (310, 0x1D7), (311, 0x1D9),
    (312, 0x1DB), (313, 0x1DD), (341, 0x1FA), (428, 0x252), (443, 0x262), (544, 0x2C8),
    (545, 0x2CC), (558, 0x2DA), (741, 0x3A2), (742, 0x3AA), (749, 0x3C2), (750, 0x3CA),
    (805, 0x402), (819, 0x450), (820, 0x452), (7922, 0x2011), (7924, 0x2017), (7925, 0x201A),
    (7927, 0x201E), (7934, 0x2027), (7943, 0x2031), (7944, 0x2034), (7945, 0x2036), (7950, 0x203C),
    (8062, 0x20AD), (8148, 0x2104), (8149, 0x2106), (8152, 0x210A), (8164, 0x2117), (8174, 0x2122),
    (8236, 0x216C), (8240, 0x217A), (8262, 0x2194), (8264, 0x219A), (8374, 0x2209), (8380, 0x2210),
    (8381, 0x2212), (8384, 0x2216), (8388, 0x221B), (8390, 0x2221), (8392, 0x2224), (8393, 0x2226),
    (8394, 0x222C), (8396, 0x222F), (8401, 0x2238), (8406, 0x223E), (8416, 0x2249), (8419, 0x224D),
    (8424, 0x2253), (8437, 0x2262), (8439, 0x2268), (8445, 0x2270), (8482, 0x2296), (8485, 0x229A),
    (8496, 0x22A6), (8521, 0x22C0), (8603, 0x2313), (8936, 0x246A), (8946, 0x249C), (9046, 0x254C),
    (9050, 0x2574), (9063, 0x2590), (9066, 0x2596), (9076, 0x25A2), (9092, 0x25B4), (9100, 0x25BE),
    (9108, 0x25C8), (9111, 0x25CC), (9113, 0x25D0), (9131, 0x25E6), (9162, 0x2607), (9164, 0x260A),
    (9218, 0x2641), (9219, 0x2643), (11329, 0x2E82), (11331, 0x2E85), (11334, 0x2E89),
    (11336, 0x2E8D), (11346, 0x2E98), (11361, 0x2EA8), (11363, 0x2EAB), (11366, 0x2EAF),
    (11370, 0x2EB4), (11372, 0x2EB8), (11375, 0x2EBC), (11389, 0x2ECB), (11682, 0x2FFC),
    (11686, 0x3004), (11687, 0x3018), (11692, 0x301F), (11694, 0x302A), (11714, 0x303F),
    (11716, 0x3094), (11723, 0x309F), (11725, 0x30F7), (11730, 0x30FF), (11736, 0x312A),
    (11982, 0x322A), (11989, 0x3232), (12102, 0x32A4), (12336, 0x3390), (12348, 0x339F),
    (12350, 0x33A2), (12384, 0x33C5), (12393, 0x33CF), (12395, 0x33D3), (12397, 0x33D6),
    (12510, 0x3448), (12553, 0x3474), (12851, 0x359F), (12962, 0x360F), (12973, 0x361B),
    (13738, 0x3919), (13823, 0x396F), (13919, 0x39D1), (13933, 0x39E0), (14080, 0x3A74),
    (14298, 0x3B4F), (14585, 0x3C6F), (14698, 0x3CE1), (15583, 0x4057), (15847, 0x4160),
    (16318, 0x4338), (16434, 0x43AD), (16438, 0x43B2), (16481, 0x43DE), (16729, 0x44D7),
    (17102, 0x464D), (17122, 0x4662), (17315, 0x4724), (17320, 0x472A), (17402, 0x477D),
    (17418, 0x478E), (17859, 0x4948), (17909, 0x497B), (17911, 0x497E), (17915, 0x4984),
    (17916, 0x4987), (17936, 0x499C), (17939, 0x49A0), (17961, 0x49B8), (18664, 0x4C78),
    (18703, 0x4CA4), (18814, 0x4D1A), (18962, 0x4DAF), (19043, 0x9FA6), (33469, 0xE76C),
    (33470, 0xE7C8), (33471, 0xE7E7), (33484, 0xE815), (33485, 0xE819), (33490, 0xE81F),
    (33497, 0xE827), (33501, 0xE82D), (33505, 0xE833), (33513, 0xE83C), (33520, 0xE844),
    (33536, 0xE856), (33550, 0xE865), (37845, 0xF92D), (37921, 0xF97A), (37948, 0xF996),
    (38029, 0xF9E8), (38038, 0xF9F2), (38064, 0xFA10), (38065, 0xFA12), (38066, 0xFA15),
    (38069, 0xFA19), (38075, 0xFA22), (38076, 0xFA25), (38078, 0xFA2A), (39108, 0xFE32),
    (39109, 0xFE45), (39113, 0xFE53), (39114, 0xFE58), (39115, 0xFE67), (39116, 0xFE6C),
    (39265, 0xFF5F), (39394, 0xFFE6)]

/-- The number of four bytes. -/
def quadNumber (a b c d : UInt8) : Nat :=
  (((a.toNat - 0x81) * 10 + (b.toNat - 0x30)) * 126 + (c.toNat - 0x81)) * 10 + (d.toNat - 0x30)

/-- The character with a number. From 189000 on these are the characters outside the basic plane;
one character traded its two bytes for four. -/
def quadChar? (number : Nat) : Option Char :=
  if 189000 ≤ number then
    if number ≤ 1237575 then some (Char.ofNat (0x10000 + (number - 189000))) else none
  else if 39419 < number then none
  else if number = 7457 then some '\uE7C7'
  else (skips.findRev? fun (start, _) => start ≤ number).map fun (start, first) =>
    Char.ofNat (first + (number - start))

/-! ### The charset -/

/-- ASCII, the euro sign in one byte, pairs, and characters of four bytes, of which the second one
is an ASCII digit. -/
def Reader.gb18030 : Reader := fun b rest =>
  if b < 0x80 then Reader.ascii b
  else if b == 0x80 then some (['€'], 0)
  else match rest with
    | [] => none
    | c :: more =>
      if within 0x30 0x39 c then
        match more with
        | d :: e :: _ =>
          if b ≤ 0xFE && within 0x81 0xFE d && within 0x30 0x39 e then
            Reader.one (quadChar? (quadNumber b c d e)) 3
          else none
        | _ => none
      else Reader.one (chinesePair? b c) 1

end StyleCheck.Charset

namespace StyleCheck.Charset.Hz

/-! ## HZ

ASCII, and spans from `~{` to `~}` of pairs that stand for Chinese pairs with the high bits
cleared. Outside a span `~~` is a tilde and `~` before a line feed continues the line. A span may be
left open. Which characters the pairs stand for is not told by HZ, so the functions take it as an
argument. -/

/-- Characters of pairs of bytes with the high bits set. -/
abbrev Pairs := UInt8 → UInt8 → Option Char

/-- Whether a byte may be part of a pair. -/
def isPairByte (b : UInt8) : Bool := within 0x21 0x7E b

/-- The character of a pair. -/
def pair? (pairs : Pairs) (a b : UInt8) : Option Char :=
  if isPairByte a && isPairByte b then pairs (a + 0x80) (b + 0x80) else none

/-- The text of the bytes that follow, inside or outside a span. -/
def decodeFrom (pairs : Pairs) (inSpan : Bool) : List UInt8 → Option (List Char)
  | [] => some []
  | a :: rest =>
    if a == 0x7E then
      match rest with
      | [] => none
      | b :: more =>
        if inSpan then if b == 0x7D then decodeFrom pairs false more else none
        else if b == 0x7E then (decodeFrom pairs false more).map ('~' :: ·)
        else if b == 0x0A then decodeFrom pairs false more
        else if b == 0x7B then decodeFrom pairs true more
        else none
    else if inSpan then
      match rest with
      | [] => none
      | b :: more =>
        (pair? pairs a b).bind fun char => (decodeFrom pairs true more).map (char :: ·)
    else if a < 0x80 then (decodeFrom pairs false rest).map (Char.ofNat a.toNat :: ·)
    else none

/-- The text of a byte string, given the characters of the pairs. -/
def decodeWith (pairs : Pairs) (bytes : List UInt8) : Option (List Char) :=
  decodeFrom pairs false bytes

/-- The text of a byte string. -/
def decode? (bytes : List UInt8) : Option (List Char) := decodeWith chinesePair? bytes

end StyleCheck.Charset.Hz
