import StyleCheck.Charset.Guess.Alphabet

/-!
# Plausibility in an alphabet of its own

How plausible a text is in a language whose words hold no letters of ASCII. Pairs count by how
usual they are, and a letter of ASCII beside one of the alphabet costs points. Where the alphabet
has case, words with a capital at the start gain points and words of mixed case lose some.

Hebrew is stored in two orders. In the order of sight, punctuation comes before the word that it
follows when read.
-/

namespace StyleCheck.Charset.Native

/-- What is special about an alphabet. -/
inductive Manner
  /-- It has case; `penalizesCapitals` says whether words in capitals lose points. -/
  | cased (penalizesCapitals : Bool)
  | caseless
  /-- Text is stored in the order of sight, from right to left. -/
  | visual
  deriving DecidableEq, Repr

/-- How the word that is being read is written so far. -/
inductive Casing
  | between
  | capital
  | small
  /-- A capital and small letters. -/
  | title
  | allCapitals
  | mixed
  deriving DecidableEq, Repr, Inhabited

/-- What has been read. -/
structure State where
  before : Sign := .blank
  /-- The byte that comes directly before. -/
  byte : UInt8 := 0x20
  casing : Casing := .between
  /-- The length of the word that is being read. -/
  word : Nat := 0
  /-- The length of the longest word. -/
  longest : Nat := 0
  /-- How often punctuation stands where it should. -/
  punctuation : Nat := 0
  points : Int := 0
  deriving Inhabited

/-! ## Case -/

/-- How the word is written after one more sign. -/
def nextCasing (alphabet : Alphabet) (casing : Casing) (sign : Sign) : Casing :=
  if alphabet.isAscii sign then .mixed
  else match sign, casing with
    | .letter _ false, .between => .small
    | .letter _ false, .capital => .title
    | .letter _ false, .allCapitals => .mixed
    | .letter _ false, casing => casing
    | .letter _ true, .between => .capital
    | .letter _ true, .capital => .allCapitals
    | .letter _ true, .small | .letter _ true, .title => .mixed
    | .letter _ true, casing => casing
    | _, _ => .between

/-- The points for a word of some length that has ended. -/
def wordPoints (penalizesCapitals : Bool) (casing : Casing) (length : Nat) : Int :=
  match casing with
  | .title => 40
  | .allCapitals => if penalizesCapitals then -40 else 0
  | .mixed => -20 * (length : Int)
  | _ => 0

/-! ## Pairs -/

/-- The points for a letter of ASCII beside one of the alphabet. -/
def besideAscii : Int := -50

/-- Whether the byte is punctuation that stands at the end of a word or a sentence. -/
def isPunctuation (b : UInt8) : Bool := "!\"'(),.-/:;?".toList.contains (Char.ofNat b.toNat)

/-- The byte of the blank that is not broken at the end of a line, in most charsets. -/
def noBreak : UInt8 := 0xA0

/-- Whether a pair does not count because its `0xA0` is likely a blank. In IBM866 that byte is a
letter. -/
def isLikelyBlank (script : Script) (state : State) (b : UInt8) (sign : Sign) : Bool :=
  script.charset == .ibm866 &&
    ((b == noBreak && (state.byte == noBreak || state.before == .blank)) ||
      (sign == .blank && state.byte == noBreak))

/-- The points for a pair. -/
def pairPoints (script : Script) (manner : Manner) (state : State) (b : UInt8) (sign : Sign) :
    Int :=
  let usual :=
    if isLikelyBlank script state b sign then 0
    else if manner = .visual then script.points sign state.before
    else script.points state.before sign
  let isMixed := (script.alphabet.isAscii state.before && script.alphabet.isNative sign) ||
    (script.alphabet.isNative state.before && script.alphabet.isAscii sign)
  usual + (if isMixed then besideAscii else 0)

/-- Whether punctuation stands where it should: after a word, or in the order of sight before
one. -/
def isPunctuated (script : Script) (manner : Manner) (state : State) (b : UInt8) (sign : Sign) :
    Bool :=
  if manner = .visual then isPunctuation state.byte && script.alphabet.isNative sign
  else script.alphabet.isNative state.before && isPunctuation b

/-! ## Texts -/

/-- What has been read after one more byte. -/
def step (script : Script) (manner : Manner) (state : State) (b : UInt8) (sign : Sign) : State :=
  let isNative := script.alphabet.isNative sign
  let ends := !isNative && !script.alphabet.isAscii sign
  let casePoints := match manner with
    | .cased penalizesCapitals =>
      if ends then wordPoints penalizesCapitals state.casing state.word else 0
    | _ => 0
  let asciiPair := state.byte < 0x80 && b < 0x80
  { before := sign
    byte := b
    casing := nextCasing script.alphabet state.casing sign
    word := if isNative then state.word + 1 else 0
    longest := if isNative then state.longest else max state.longest state.word
    punctuation := state.punctuation + if isPunctuated script manner state b sign then 1 else 0
    points := state.points + casePoints
      + (if asciiPair then 0 else pairPoints script manner state b sign) }

/-- What a byte string holds; `none` if it has a byte that the charset does not use, or no word of
two letters. -/
def read? (script : Script) (manner : Manner) (bytes : List UInt8) : Option State :=
  (script.read? bytes).bind fun signs =>
    let state := signs.foldl (fun state (b, sign) => step script manner state b sign) {}
    if 2 ≤ state.longest then some state else none

/-- The plausibility of a byte string. -/
def plausibility? (script : Script) (manner : Manner) (bytes : List UInt8) : Option Int :=
  (read? script manner bytes).map State.points

end StyleCheck.Charset.Native
