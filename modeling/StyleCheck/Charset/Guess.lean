import StyleCheck.Charset.Basic
import StyleCheck.Charset.Guess.Alphabet.Latin
import StyleCheck.Charset.Guess.Alphabet.Native
import StyleCheck.Charset.Guess.Latin
import StyleCheck.Charset.Guess.Native
import StyleCheck.Charset.Guess.Wide

/-!
# Guessing a charset

A guess at the charset of bytes that have no byte order mark. Bytes of seven bits with escape
sequences are ISO-2022-JP if they can be, and bytes that can be UTF-8 are that. For all others the
most plausible of the charsets that were in wide use is chosen, and windows-1252 where none of them
is plausible at all.

Nothing up to the second last byte before the first escape or high byte is looked at.
-/

namespace StyleCheck.Charset

/-- A guess at a charset. -/
structure Guess where
  /-- The name of the charset. -/
  name : String
  /-- Some other charset is less likely. -/
  isConfident : Bool
  deriving DecidableEq, Repr

namespace Guess

/-! ## Rivals -/

/-- How the plausibility of a byte string in a charset is found. -/
structure Rival where
  charset : Charset
  plausibility? : List UInt8 → Option Int

/-- A charset of East Asia. -/
def wide (charset : Charset) (manner : Wide.Manner) : Rival :=
  ⟨charset, Wide.plausibility? manner⟩

/-- A charset of languages whose letters stand among those of ASCII. -/
def latin (charset : SingleByte) (alphabet : Alphabet) : Rival :=
  ⟨.singleByte charset, Latin.plausibility? (.of charset alphabet) false⟩

/-- A charset of languages with an alphabet of their own. -/
def native (charset : SingleByte) (alphabet : Alphabet) (manner : Native.Manner) : Rival :=
  ⟨.singleByte charset, Native.plausibility? (.of charset alphabet) manner⟩

/-- The script of Hebrew in logical order. -/
def logicalHebrew : Script := .of .windows1255 .hebrew

/-- The script of Hebrew in the order of sight. -/
def visualHebrew : Script := .of .iso8859Part8 .hebrew

/-- The rivals, in the order in which the first of equals is chosen. -/
def rivals : List Rival := [
  wide .gbk Wide.gbk,
  wide .eucJp Wide.eucJp,
  wide .eucKr Wide.eucKr,
  wide .shiftJis Wide.shiftJis,
  wide .big5 Wide.big5,
  ⟨.singleByte .windows1252, Latin.plausibility? (.of .windows1252 .western) true⟩,
  native .windows1251 .cyrillic (.cased false),
  latin .windows1250 .centralEuropean,
  latin .iso8859Part2 .centralEuropean,
  native .windows1256 .arabic .caseless,
  latin .windows1252 .icelandic,
  latin .windows1254 .turkish,
  native .windows874 .thai .caseless,
  ⟨.singleByte .windows1255, Native.plausibility? logicalHebrew .caseless⟩,
  native .windows1253 .greek (.cased false),
  native .iso8859Part7 .greek (.cased false),
  latin .windows1257 .baltic,
  latin .iso8859Part13 .baltic,
  latin .iso8859Part4 .baltic,
  latin .windows1258 .vietnamese,
  native .koi8U .cyrillic (.cased true),
  native .iso8859Part5 .cyrillic (.cased false),
  native .iso8859Part6 .arabic .caseless,
  native .ibm866 .cyrillic (.cased false)]

/-- The most plausible charset with its plausibility, which is above zero unless no rival is
plausible. -/
def mostPlausible (bytes : List UInt8) : Charset × Int :=
  rivals.foldl
    (fun best rival =>
      match rival.plausibility? bytes with
      | some points => if best.2 < points then (rival.charset, points) else best
      | none => best)
    (.singleByte .windows1252, 0)

/-- Whether text that is most plausible as `best` is Hebrew in the order of sight: it is at least as
plausible as that, and its punctuation says so. -/
def isVisualHebrew (best : Charset × Int) (bytes : List UInt8) : Bool :=
  match Native.read? visualHebrew .visual bytes with
  | none => false
  | some visual =>
    let logical := ((Native.read? logicalHebrew .caseless bytes).map (·.punctuation)).getD 0
    (best.2 < visual.points || best.1 == .singleByte .windows1255) && logical < visual.punctuation

/-! ## The guess -/

/-- The bytes from the last one before the first escape or high byte. -/
def telling (bytes : List UInt8) : List UInt8 :=
  bytes.drop ((bytes.takeWhile fun b => b < 0x80 && b != 0x1B).length - 1)

/-- The guess at the charset of a byte string. -/
def ofBytes (bytes : List UInt8) : Guess :=
  let rest := telling bytes
  if bytes.contains 0x1B && bytes.all (· < 0x80) && (Charset.iso2022Jp.decode? rest).isSome then
    ⟨Charset.iso2022Jp.name, true⟩
  else if (Charset.utf8.decode? bytes).isSome then ⟨Charset.utf8.name, true⟩
  else
    let best := mostPlausible rest
    let charset := if isVisualHebrew best rest then .singleByte .iso8859Part8 else best.1
    ⟨charset.name, true⟩

end Guess

end StyleCheck.Charset
