/-!
# Texts

Trimming, cutting and replacing, and reading decimal numerals.
-/

namespace StyleCheck.Text

/-! ## Blanks

The characters that separate text without being part of it, and trimming. A blank is a character
with the Unicode property `White_Space`; every trimming of this library uses this one class. -/

/-- The characters with the Unicode property `White_Space`. -/
def isBlank (c : Char) : Bool :=
  (0x09 ≤ c.val && c.val ≤ 0x0D) || c.val == 0x20 || c.val == 0x85 || c.val == 0xA0 ||
  c.val == 0x1680 || (0x2000 ≤ c.val && c.val ≤ 0x200A) || c.val == 0x2028 || c.val == 0x2029 ||
  c.val == 0x202F || c.val == 0x205F || c.val == 0x3000

/-- The text without the blanks it starts with. -/
def trimStart (cs : List Char) : List Char := cs.dropWhile isBlank

/-- The text without the blanks it ends with. -/
def trimEnd (cs : List Char) : List Char := (cs.reverse.dropWhile isBlank).reverse

/-- The text without the blanks around it. -/
def trim (cs : List Char) : List Char := trimEnd (trimStart cs)

/-! ## Cutting and replacing

Cutting a text at a character or at a word, and replacing characters. All functions work on
lists, so that they serve characters and bytes alike. -/

variable {α : Type} [BEq α]

/-- The parts before and after the first `c`. -/
def cutAt (c : α) : List α → Option (List α × List α)
  | [] => none
  | x :: xs =>
    if x == c then some ([], xs)
    else (cutAt c xs).map fun (before, after) => (x :: before, after)

/-- What follows `word` in a text that starts with it. -/
def dropWord? : (word text : List α) → Option (List α)
  | [], text => some text
  | _ :: _, [] => none
  | w :: word, c :: text => if w == c then dropWord? word text else none

/-- The parts before and after the first occurrence of a word. -/
def cutAtWord (word : List α) : List α → Option (List α × List α)
  | [] => if word.isEmpty then some ([], []) else none
  | c :: cs =>
    match dropWord? word (c :: cs) with
    | some after => some ([], after)
    | none => (cutAtWord word cs).map fun (before, after) => (c :: before, after)

/-- Whether the word occurs in the text. -/
def hasWord (word text : List α) : Bool := (cutAtWord word text).isSome

/-- The pieces between the occurrences of `c`; one piece more than there are occurrences. -/
def piecesAt (c : α) : List α → List (List α)
  | [] => [[]]
  | x :: xs =>
    if x == c then [] :: piecesAt c xs
    else match piecesAt c xs with
      | [] => [[x]]
      | piece :: more => (x :: piece) :: more

/-- The text with every occurrence of `c` replaced by `image`. -/
def replaceWith (c : α) (image : List α) (text : List α) : List α :=
  text.flatMap fun x => if x == c then image else [x]

/-- The text without `word` at its end, if it ends with it. -/
def dropWordAtEnd? (word text : List α) : Option (List α) :=
  (dropWord? word.reverse text.reverse).map List.reverse

/-- The texts one after the other, with `separator` between neighbours. -/
def join (separator : List α) : List (List α) → List α
  | [] => []
  | [text] => text
  | text :: more => text ++ separator ++ join separator more

end StyleCheck.Text

namespace StyleCheck.Text

/-! ## Decimal numerals

Reading decimal numerals of bounded machine size. A numeral is an optional sign and at least one
ASCII digit; leading zeros are allowed and a value out of bounds is no numeral. -/

/-- The value of an ASCII digit. -/
def digit? (c : Char) : Option Nat :=
  if '0' ≤ c ∧ c ≤ '9' then some (c.toNat - '0'.toNat) else none

/-- The value of a possibly empty run of digits after the digits that made `n`. -/
def digitsFrom (n : Nat) : List Char → Option Nat
  | [] => some n
  | c :: cs => (digit? c).bind fun d => digitsFrom (10 * n + d) cs

/-- The value of a run of at least one digit. -/
def digits? (cs : List Char) : Option Nat :=
  if cs.isEmpty then none else digitsFrom 0 cs

/-- The largest size: `2 ^ 64 - 1`. -/
def maxSize : Nat := UInt64.size - 1

/-- A size: an optional `+`, then digits of value at most `maxSize`. -/
def size? (cs : List Char) : Option Nat :=
  let unsigned := match cs with
    | '+' :: rest => rest
    | _ => cs
  (digits? unsigned).filter (· ≤ maxSize)

/-- A signed 64-bit integer: an optional sign, then digits. -/
def integer? (cs : List Char) : Option Int :=
  let value : Option Int := match cs with
    | '+' :: rest => (digits? rest).map Int.ofNat
    | '-' :: rest => (digits? rest).map fun n => - Int.ofNat n
    | _ => (digits? cs).map Int.ofNat
  value.filter fun n => Int64.minValue.toInt ≤ n ∧ n ≤ Int64.maxValue.toInt

end StyleCheck.Text
