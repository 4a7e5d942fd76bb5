/-!
# UTF-16 and UTF-32

Strict decoding of texts in units of two bytes and of four bytes, in either byte order.
-/

namespace StyleCheck.Text

/-! ## UTF-16

Strict decoding of 16-bit units in either byte order. A surrogate stands only in a pair of a high
one and a low one, and the byte string has even length. -/

/-- In which order the bytes of a number are stored. -/
inductive ByteOrder
  | little
  | big
  deriving DecidableEq, Repr

namespace Utf16

/-- The unit stored in two bytes. -/
def unit (order : ByteOrder) (first second : UInt8) : Nat :=
  match order with
  | .little => second.toNat * 256 + first.toNat
  | .big => first.toNat * 256 + second.toNat

/-- The units of a byte string; `none` if a byte is left over. -/
def units? (order : ByteOrder) : List UInt8 → Option (List Nat)
  | [] => some []
  | [_] => none
  | a :: b :: rest => (units? order rest).map (unit order a b :: ·)

/-- A unit that opens a pair. -/
def isHigh (u : Nat) : Bool := 0xD800 ≤ u && u ≤ 0xDBFF

/-- A unit that closes a pair. -/
def isLow (u : Nat) : Bool := 0xDC00 ≤ u && u ≤ 0xDFFF

/-- The text that units stand for; `none` if a surrogate is unpaired. -/
def ofUnits? : List Nat → Option (List Char)
  | [] => some []
  | [u] => if isHigh u || isLow u then none else some [Char.ofNat u]
  | u :: v :: rest =>
    if isHigh u then
      if isLow v then
        (ofUnits? rest).map (Char.ofNat (0x10000 + (u - 0xD800) * 1024 + (v - 0xDC00)) :: ·)
      else none
    else if isLow u then none
    else (ofUnits? (v :: rest)).map (Char.ofNat u :: ·)

/-- The text of a byte string. -/
def decode? (order : ByteOrder) (bytes : List UInt8) : Option (List Char) :=
  (units? order bytes).bind ofUnits?

/-- The units of a character. -/
def unitsOf (c : Char) : List Nat :=
  if c.toNat < 0x10000 then [c.toNat]
  else [0xD800 + (c.toNat - 0x10000) / 1024, 0xDC00 + (c.toNat - 0x10000) % 1024]

/-- The two bytes of a unit. -/
def unitBytes (order : ByteOrder) (u : Nat) : List UInt8 :=
  match order with
  | .little => [UInt8.ofNat (u % 256), UInt8.ofNat (u / 256)]
  | .big => [UInt8.ofNat (u / 256), UInt8.ofNat (u % 256)]

/-- The bytes of a text. -/
def encode (order : ByteOrder) (text : List Char) : List UInt8 :=
  text.flatMap fun c => (unitsOf c).flatMap (unitBytes order)

end Utf16

end StyleCheck.Text

namespace StyleCheck.Text.Utf32

/-! ## UTF-32

Strict decoding of scalar values stored in four bytes each, in either byte order. Surrogates,
values above `U+10FFFF` and left-over bytes are refused. -/

/-- The number stored in four bytes. -/
def word (order : ByteOrder) (a b c d : UInt8) : Nat :=
  match order with
  | .little => ((d.toNat * 256 + c.toNat) * 256 + b.toNat) * 256 + a.toNat
  | .big => ((a.toNat * 256 + b.toNat) * 256 + c.toNat) * 256 + d.toNat

/-- The character of a scalar value. -/
def scalar? (n : Nat) : Option Char :=
  if h : n.isValidChar then some (Char.ofNatAux n h) else none

/-- The text of a byte string. -/
def decode? (order : ByteOrder) : List UInt8 → Option (List Char)
  | [] => some []
  | a :: b :: c :: d :: rest =>
    match scalar? (word order a b c d), decode? order rest with
    | some char, some text => some (char :: text)
    | _, _ => none
  | _ => none

/-- The four bytes of a number. -/
def wordBytes (order : ByteOrder) (n : Nat) : List UInt8 :=
  let big := [UInt8.ofNat (n / 16777216), UInt8.ofNat (n / 65536 % 256),
    UInt8.ofNat (n / 256 % 256), UInt8.ofNat (n % 256)]
  match order with
  | .little => big.reverse
  | .big => big

/-- The bytes of a text. -/
def encode (order : ByteOrder) (text : List Char) : List UInt8 :=
  text.flatMap fun c => wordBytes order c.toNat

end StyleCheck.Text.Utf32
