import StyleCheck.Charset.Guess

/-!
# Detecting the charset of a file

A byte order mark at the start decides. Without one the bytes are UTF-8 if they can be, and else
what a guess from the characters of the text says. The candidates are ranked by confidence and
then by name, so that the choice depends on the bytes alone.

Bytes that cannot be decoded are binary if one of them is a control character that text never
holds; otherwise that is an error. Everything but `Guess.ofBytes` works with any guess, that of an
unknown charset included.
-/

namespace StyleCheck.Charset

/-- A proposed charset, by name. -/
structure Candidate where
  name : String
  /-- From 0 to 100. -/
  confidence : Nat
  deriving DecidableEq, Repr

/-- Why text could not be decoded. -/
inductive DecodeError
  | noCandidate
  | malformed (charset : Charset)
  deriving DecidableEq, Repr

/-- The text that reports the error. -/
def DecodeError.message : DecodeError → String
  | noCandidate => "unable to detect a charset"
  | malformed charset => "content is not valid " ++ charset.name ++ " text"

/-- What the bytes of a file are. -/
inductive Decoded
  | text (content : List Char) (charset : Charset)
  | binary
  deriving DecidableEq, Repr

/-! ## Control characters -/

/-- The control characters that text never holds. Tab, line feed, form feed and carriage return
are not among them. -/
def isForbidden (n : Nat) : Bool := n ≤ 0x08 || n == 0x0B || (0x0E ≤ n && n ≤ 0x1F)

/-- Whether some byte is a forbidden control character. -/
def isBinary (bytes : List UInt8) : Bool := bytes.any fun b => isForbidden b.toNat

/-- Whether no character is a forbidden control character. -/
def isWellFormed (text : List Char) : Bool := text.all fun c => !isForbidden c.toNat

/-! ## Candidates -/

/-- Byte order marks. The mark of UTF-32 in little-endian order starts with that of UTF-16. -/
def marks : List (List UInt8 × Charset) := [
  ([0xFF, 0xFE, 0x00, 0x00], .utf32 .little),
  ([0x00, 0x00, 0xFE, 0xFF], .utf32 .big),
  ([0xEF, 0xBB, 0xBF], .utf8),
  ([0xFF, 0xFE], .utf16 .little),
  ([0xFE, 0xFF], .utf16 .big)]

/-- The charset whose byte order mark the bytes start with. -/
def marked? (bytes : List UInt8) : Option Charset :=
  (marks.find? fun (mark, _) => mark.isPrefixOf bytes).map Prod.snd

/-- The confidence in a charset that is certain. -/
def certain : Nat := 100

/-- The confidence in a guess. -/
def Guess.confidence (guess : Guess) : Nat := if guess.isConfident then 80 else 40

/-- Whether a candidate comes before another or is equal to it: higher confidence first, then
smaller name. -/
def Candidate.le (a b : Candidate) : Bool :=
  b.confidence < a.confidence || (a.confidence == b.confidence && a.name ≤ b.name)

/-- The candidates for a byte string, the most likely first. -/
def candidates (guess : Guess) (bytes : List UInt8) : List Candidate :=
  match marked? bytes with
  | some charset => [⟨charset.name, certain⟩]
  | none =>
    let guessed : Candidate := ⟨guess.name, guess.confidence⟩
    if (Charset.utf8.decode? bytes).isSome then
      [⟨Charset.utf8.name, certain⟩, guessed].mergeSort Candidate.le
    else [guessed]

/-- The better of two candidates with known charsets; the first of equals. -/
def better (a b : Candidate × Charset) : Candidate × Charset := if a.1.le b.1 then a else b

/-- The charset of the best candidate whose name is known. -/
def select? (candidates : List Candidate) : Option Charset :=
  let known := candidates.filterMap fun c => (Charset.ofName? c.name).map (c, ·)
  match known with
  | [] => none
  | first :: others => some (others.foldl better first).2

/-! ## Decoding -/

/-- The text of a byte string in the best of the candidate charsets. -/
def decodeBest (guess : Guess) (bytes : List UInt8) :
    Except DecodeError (List Char × Charset) :=
  match select? (candidates guess bytes) with
  | none => .error .noCandidate
  | some charset =>
    match charset.decode? bytes with
    | none => .error (.malformed charset)
    | some text => if isWellFormed text then .ok (text, charset) else .error (.malformed charset)

/-- What the bytes of a file are, given a guess at their charset. -/
def decodeWith (guess : Guess) (bytes : List UInt8) : Except DecodeError Decoded :=
  match decodeBest guess bytes with
  | .ok (text, charset) => .ok (.text text charset)
  | .error error => if isBinary bytes then .ok .binary else .error error

/-- What the bytes of a file are. -/
def decode (bytes : List UInt8) : Except DecodeError Decoded :=
  decodeWith (Guess.ofBytes bytes) bytes

end StyleCheck.Charset
