import StyleCheck.Charset.Table.SingleByte
import StyleCheck.Text.Case

/-!
# Alphabets

What the text of some languages looks like, letter by letter: which letters it has beside those of
ASCII, and how usual each pair of them is. Case does not matter to that.

Blanks and punctuation count as one letter, the blank. In an alphabet of its own, such as Greek,
all letters of ASCII count as one letter too. Characters that are none of this, such as `±`, are
symbols; they stand by themselves.
-/

namespace StyleCheck.Charset

/-! ## Signs -/

/-- What a character is in the text of some languages. -/
inductive Sign
  | blank
  | digit
  | symbol
  /-- A letter by its row in the alphabet. -/
  | letter (row : Nat) (isCapital : Bool)
  deriving DecidableEq, Repr, Inhabited

namespace Sign

/-- The row of the sign; digits count as blank. -/
def row? : Sign → Option Nat
  | blank | digit => some 0
  | symbol => none
  | letter row _ => some row

/-- Whether the sign is a letter. -/
def isLetter : Sign → Bool
  | letter _ _ => true
  | _ => false

end Sign

/-! ## Alphabets -/

/-- The letters of some languages, and how usual their pairs are. -/
structure Alphabet where
  /-- Whether the letters stand among those of ASCII. -/
  isLatin : Bool
  /-- The blank, the letters of ASCII and the other letters, each with its row: how usual it is
  before the blank and before each of the letters. -/
  rows : List (Char × String)
  /-- The capitals whose small letter is not the usual one. -/
  capitals : List (Char × Char) := []
  /-- The letters that count as those of ASCII. -/
  foreign : String := ""
  /-- The letters that count as blank. -/
  ignored : String := ""

namespace Alphabet

/-- The digits of levels. -/
def digits : List Char :=
  "0123456789ABCDEFGHIJKLMNOPQRSTUVWXYZabcdefghijklmnopqrstuvwxyz+/".toList

/-- The points for a pair that the languages never write. -/
def implausible : Int := -220

/-- The points for a pair by the digit of its level. They grow as the square of the level. -/
def pointsOfDigit (c : Char) : Int :=
  match digits.idxOf? c with
  | some level => ((level * level / 16 : Nat) : Int)
  | none => implausible

/-- The points for each pair, by rows. -/
def table (alphabet : Alphabet) : Array (Array Int) :=
  (alphabet.rows.map fun (_, levels) => (levels.toList.map pointsOfDigit).toArray).toArray

/-- The number of rows before those of the letters beside ASCII. -/
def asciiRows (alphabet : Alphabet) : Nat := if alphabet.isLatin then 27 else 2

/-- Whether the sign is a letter beside those of ASCII. -/
def isNative (alphabet : Alphabet) : Sign → Bool
  | .letter row _ => alphabet.asciiRows ≤ row
  | _ => false

/-- Whether the sign is a letter of ASCII. -/
def isAscii (alphabet : Alphabet) : Sign → Bool
  | .letter row _ => row < alphabet.asciiRows
  | _ => false

/-! ## Reading characters -/

/-- The small letter of a letter. -/
def small (alphabet : Alphabet) (c : Char) : Char :=
  (alphabet.capitals.lookup c).getD ((Text.lowerChar c).headD c)

/-- Whether the character is a letter of ASCII. -/
def isAsciiLetter (c : Char) : Bool := ('a' ≤ c && c ≤ 'z') || ('A' ≤ c && c ≤ 'Z')

/-- The blanks and the punctuation beside those of ASCII. -/
def blanks : List Char :=
  "\u00a0\u00ad§«·»¡¿\u060c\u061b\u061f\u200c\u200d\u200e\u200f–—‘’“”‚„‹›…".toList

/-- Whether the character counts as blank, given that it is no letter. -/
def isBlank (alphabet : Alphabet) (c : Char) : Bool :=
  if c.toNat < 0x80 then
    (0x20 ≤ c.toNat && c != '\x7f') || c == '\t' || c == '\n' || c == '\x0c' || c == '\r'
  else blanks.contains c || alphabet.ignored.toList.contains c

/-- What a character is in the languages; `none` for a control character from `0x80` on. -/
def sign? (alphabet : Alphabet) (c : Char) : Option Sign :=
  let letter := alphabet.small c
  let known := if isAsciiLetter c && !alphabet.isLatin then some 1
    else if isAsciiLetter c || 0x80 ≤ c.toNat then
      (alphabet.rows.map Prod.fst).idxOf? letter
    else none
  if 0x80 ≤ c.toNat ∧ c.toNat < 0xA0 then none
  else match known with
    | some row => some (.letter row (letter != c))
    | none =>
      if '0' ≤ c && c ≤ '9' then some .digit
      else if alphabet.isBlank c then some .blank
      else if alphabet.foreign.toList.contains letter then some (.letter 1 (letter != c))
      else some .symbol

end Alphabet

/-! ## Scripts -/

/-- An alphabet as a charset writes it. -/
structure Script where
  charset : SingleByte
  alphabet : Alphabet
  /-- The points for each pair of rows. -/
  table : Array (Array Int)
  /-- What each byte stands for. -/
  signs : Array (Option Sign)

namespace Script

/-- The alphabet as the charset writes it. -/
def of (charset : SingleByte) (alphabet : Alphabet) : Script where
  charset
  alphabet
  table := alphabet.table
  signs := ((List.range 256).map fun n =>
    (SingleByte.char? charset.upper (UInt8.ofNat n)).bind alphabet.sign?).toArray

/-- The signs that a byte string stands for, each with its byte. A blank follows at the end. -/
def read? (script : Script) (bytes : List UInt8) : Option (List (UInt8 × Sign)) :=
  (bytes ++ [0x20]).mapM fun (b : UInt8) => (script.signs[b.toNat]?.join).map fun sign => (b, sign)

/-- The points for a pair of signs. A symbol beside a letter is implausible. -/
def points (script : Script) (before after : Sign) : Int :=
  match before.row?, after.row? with
  | some i, some j => (script.table[i]?.bind (·[j]?)).getD Alphabet.implausible
  | _, _ => if before.isLetter || after.isLetter then Alphabet.implausible else 0

end Script

end StyleCheck.Charset
