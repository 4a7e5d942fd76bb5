import StyleCheck.Charset.Guess.Ordinal

/-!
# Plausibility among the letters of ASCII

How plausible a text is in a language that mixes letters beside ASCII with those of ASCII. Pairs
with such a letter count by how usual they are. Case changes inside words that involve one cost
points, and so do long runs of bytes beside ASCII.
-/

namespace StyleCheck.Charset.Latin

/-- How the word that is being read is written so far. -/
inductive Casing
  | between
  /-- A capital at its start, or after a small letter. -/
  | capital
  | small
  /-- Capitals, more than one. -/
  | allCapitals
  deriving DecidableEq, Repr, Inhabited

/-- What has been read. -/
structure State where
  before : Sign := .blank
  casing : Casing := .between
  /-- How many bytes beside ASCII come directly before. -/
  run : Nat := 0
  ordinal : Ordinal.State := .blank
  points : Int := 0
  deriving Inhabited

/-- The points for a change of case that no word has. -/
def brokenCase : Int := -180

/-- The points for a byte after so many bytes beside ASCII. -/
def runPoints (run : Nat) : Int :=
  if run ≤ 2 then 0 else if run = 3 then -5 else if run = 4 then -20 else -200

/-- How the word is written after one more sign. -/
def nextCasing (casing : Casing) : Sign → Casing
  | .letter _ true =>
    match casing with
    | .between | .small => .capital
    | .capital | .allCapitals => .allCapitals
  | .letter _ false => .small
  | _ => .between

/-- The points for the case of one more sign. -/
def casePoints (casing : Casing) : Sign → Int
  | .letter _ true => if casing = .small then brokenCase else 0
  | .letter _ false => if casing = .allCapitals then brokenCase else 0
  | _ => 0

/-- What has been read after one more byte. -/
def step (script : Script) (ordinals : Bool) (state : State) (b : UInt8) (sign : Sign) : State :=
  let isAscii := b < 0x80
  let asciiPair := state.run == 0 && isAscii
  let counts := !(asciiPair || (isAscii && state.before == .blank) ||
    (sign == .blank && state.run == 0))
  { before := sign
    casing := nextCasing state.casing sign
    run := if isAscii then 0 else state.run + 1
    ordinal := Ordinal.next state.ordinal b sign
    points := state.points + runPoints state.run
      + (if asciiPair then 0 else casePoints state.casing sign)
      + (if counts then script.points state.before sign else 0)
      + (if ordinals then Ordinal.points state.ordinal sign else 0) }

/-- The plausibility of a byte string; `none` if it has a byte that the charset does not use.
`ordinals` says whether ordinal signs and copyright signs are looked for. -/
def plausibility? (script : Script) (ordinals : Bool) (bytes : List UInt8) : Option Int :=
  (script.read? bytes).map fun signs =>
    (signs.foldl (fun state (b, sign) => step script ordinals state b sign) {}).points

end StyleCheck.Charset.Latin
