import StyleCheck.Charset.Guess.Alphabet

/-!
# Ordinal signs

The signs `ª` and `º` of Western European languages stand where letters beside ASCII never do: after
a digit, a Roman number, an abbreviation such as `N` or `S`, or alone. A copyright sign stands alone
too. This machine finds them and makes up for what their pairs cost.
-/

namespace StyleCheck.Charset.Ordinal

/-- What has just been read. -/
inductive State
  | other
  | blank
  | digits
  /-- A Roman number. -/
  | roman
  /-- The letter that starts an abbreviation with `ª`. -/
  | abbreviation
  | capitalN
  | smallN
  /-- A full stop after `N` or `n`. -/
  | stopAfterN
  /-- An ordinal sign for which the given points follow at a blank, and with `beforeDigit` also at
  a digit. -/
  | sign (points : Int) (beforeDigit : Bool)
  | copyright
  deriving DecidableEq, Repr, Inhabited

/-- The points for an ordinal sign. -/
def ordinalPoints : Int := 300

/-- The points for an ordinal sign after a letter, which make up for that pair. -/
def pointsAfterLetter : Int := ordinalPoints - Alphabet.implausible

/-- The points for a copyright sign. -/
def copyrightPoints : Int := 222

/-- The feminine sign. -/
def feminine : UInt8 := 0xAA

/-- The masculine sign. -/
def masculine : UInt8 := 0xBA

/-- Whether the byte is one of the ordinal signs. -/
def isOrdinal (b : UInt8) : Bool := b == feminine || b == masculine

/-- Whether the byte is a letter of Roman numbers. -/
def isRoman (b : UInt8) : Bool := "IVXivx".toList.contains (Char.ofNat b.toNat)

/-- What has been read after one more byte that continues nothing. -/
def afterOther : Sign → State
  | .blank => .blank
  | _ => .other

/-- What has been read after one more byte that follows a blank. -/
def afterBlank (b : UInt8) (sign : Sign) : State :=
  if sign == .blank then .blank
  else if isOrdinal b then .sign ordinalPoints false
  else if b == 0x4D || b == 0x44 || b == 0x53 then .abbreviation
  else if b == 0x4E then .capitalN
  else if b == 0x6E then .smallN
  else if sign == .digit then .digits
  else if isRoman b then .roman
  else if b == 0xA9 then .copyright
  else .other

/-- What has been read after one more byte. -/
def next (state : State) (b : UInt8) (sign : Sign) : State :=
  match state with
  | .blank => afterBlank b sign
  | .digits =>
    if isOrdinal b then .sign ordinalPoints false
    else if sign == .digit then .digits
    else afterOther sign
  | .roman =>
    if isOrdinal b then .sign pointsAfterLetter false
    else if isRoman b then .roman
    else afterOther sign
  | .abbreviation => if b == feminine then .sign pointsAfterLetter false else afterOther sign
  | .capitalN =>
    if b == feminine then .sign pointsAfterLetter false
    else if b == masculine then .sign pointsAfterLetter true
    else if b == 0x2E then .stopAfterN
    else afterOther sign
  | .smallN =>
    if b == masculine then .sign pointsAfterLetter true
    else if b == 0x2E then .stopAfterN
    else afterOther sign
  | .stopAfterN => if b == masculine then .sign ordinalPoints true else afterOther sign
  | .sign _ _ | .copyright | .other => afterOther sign

/-- The points that a byte completes. -/
def points (state : State) (sign : Sign) : Int :=
  match state with
  | .sign points beforeDigit =>
    if sign == .blank || (beforeDigit && sign == .digit) then points else 0
  | .copyright => if sign == .blank then copyrightPoints else 0
  | _ => 0

end StyleCheck.Charset.Ordinal
