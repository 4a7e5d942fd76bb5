/-!
# UTF-8

Strict and forgiving decoding. `next` reads one scalar value off a byte string: the shortest
encoding only, no surrogates, nothing above `U+10FFFF`. When the bytes do not start with a scalar
value it drops the longest prefix that could still have become one, or one byte if there is none;
that prefix is what the forgiving decoder writes as one replacement character.
-/

namespace StyleCheck.Text.Utf8

/-- The character written for bytes that are no text. -/
def replacement : Char := '\uFFFD'

/-- A byte after the first one of a scalar value. -/
def isContinuation (b : UInt8) : Bool := 0x80 ≤ b && b ≤ 0xBF

/-- The six bits that such a byte carries. -/
def payload (b : UInt8) : Nat := b.toNat % 64

/-- The bytes that may follow the first byte of a three-byte value: no overlong forms and no
surrogates. -/
def isSecondOfThree (lead b : UInt8) : Bool :=
  if lead == 0xE0 then 0xA0 ≤ b && b ≤ 0xBF
  else if lead == 0xED then 0x80 ≤ b && b ≤ 0x9F
  else isContinuation b

/-- The bytes that may follow the first byte of a four-byte value: no overlong forms and nothing
above `U+10FFFF`. -/
def isSecondOfFour (lead b : UInt8) : Bool :=
  if lead == 0xF0 then 0x90 ≤ b && b ≤ 0xBF
  else if lead == 0xF4 then 0x80 ≤ b && b ≤ 0x8F
  else isContinuation b

/-- The scalar value that starts with `lead`, if any, and the bytes after it or after the
dropped prefix. -/
def next (lead : UInt8) (rest : List UInt8) : Option Char × List UInt8 :=
  if lead < 0x80 then (some (Char.ofNat lead.toNat), rest)
  else if 0xC2 ≤ lead ∧ lead ≤ 0xDF then
    match rest with
    | b :: more =>
      if isContinuation b then (some (Char.ofNat (lead.toNat % 32 * 64 + payload b)), more)
      else (none, rest)
    | [] => (none, [])
  else if 0xE0 ≤ lead ∧ lead ≤ 0xEF then
    match rest with
    | b :: c :: more =>
      if isSecondOfThree lead b then
        if isContinuation c then
          (some (Char.ofNat (lead.toNat % 16 * 4096 + payload b * 64 + payload c)), more)
        else (none, c :: more)
      else (none, rest)
    | [b] => if isSecondOfThree lead b then (none, []) else (none, rest)
    | [] => (none, [])
  else if 0xF0 ≤ lead ∧ lead ≤ 0xF4 then
    match rest with
    | b :: c :: d :: more =>
      if isSecondOfFour lead b then
        if isContinuation c then
          if isContinuation d then
            (some (Char.ofNat
              (lead.toNat % 8 * 262144 + payload b * 4096 + payload c * 64 + payload d)), more)
          else (none, d :: more)
        else (none, c :: d :: more)
      else (none, rest)
    | [b, c] =>
      if isSecondOfFour lead b then if isContinuation c then (none, []) else (none, [c])
      else (none, rest)
    | [b] => if isSecondOfFour lead b then (none, []) else (none, rest)
    | [] => (none, [])
  else (none, rest)

theorem length_next_le (lead : UInt8) (rest : List UInt8) :
    (next lead rest).2.length ≤ rest.length := by
  unfold next
  repeat' split
  all_goals grind

/-- The text of a byte string; `none` unless all of it is UTF-8. -/
def decode? : List UInt8 → Option (List Char)
  | [] => some []
  | lead :: rest =>
    match _h : next lead rest with
    | (some c, more) => (decode? more).map (c :: ·)
    | (none, _) => none
termination_by bytes => bytes.length
decreasing_by
  have := length_next_le lead rest
  grind

/-- The text of a byte string with every malformed stretch written as `replacement`. -/
def decodeLossy : List UInt8 → List Char
  | [] => []
  | lead :: rest =>
    let read := next lead rest
    read.1.getD replacement :: decodeLossy read.2
termination_by bytes => bytes.length
decreasing_by
  have := length_next_le lead rest
  grind

/-- The bytes of a text. -/
def encode (text : List Char) : List UInt8 := text.flatMap String.utf8EncodeChar

end StyleCheck.Text.Utf8
