import StyleCheck.Text.Basic
import StyleCheck.Toml.Quoted

/-!
# Values and scalars of TOML

The values of a document, and how those are read that are written without quotes or brackets.
-/

namespace StyleCheck.Toml

/-! ## TOML values

The values of a TOML document. A table remembers how it came about, because that decides what may
still be added to it. -/

/-- How a table came about. -/
inductive Origin
  /-- By a header of its own. -/
  | header
  /-- By a header of a table inside it. -/
  | implied
  /-- By a dotted key. -/
  | dotted
  /-- As a value, which is complete. -/
  | inline
  deriving DecidableEq, Repr

/-- A value. Numbers with a fraction and points in time, which no option takes, are kept as
text. -/
inductive Value
  | string (s : String)
  /-- The number is missing where the digits of the integer are none. -/
  | integer (n : Option Int)
  | boolean (b : Bool)
  | float (text : String)
  | moment (text : String)
  | array (items : List Value)
  | table (origin : Origin) (entries : List (String × Value))

/-- The keys of a table and their values, in the order of the document. -/
abbrev Entries := List (String × Value)

/-! ## Scalars of TOML

The values that are written without quotes or brackets: integers in four bases, numbers with a
fraction or an exponent, points in time, and the two truth values. Digits may be grouped by
underscores.

Integers are checked when they are asked for. Until then only their start and the places of the
underscores count, so that `0x` and `1_2-3` are integers that stand for no number. -/

/-! ## Digits -/

/-- The value of a digit in a base. -/
def digitIn? (base : Nat) (c : Char) : Option Nat := (hexDigit? c).filter (· < base)

/-- Whether the character is a decimal digit. -/
def isDigit (c : Char) : Bool := '0' ≤ c && c ≤ '9'

/-- The number written by at least one digit of a base, with underscores anywhere. -/
def digits? (base : Nat) (cs : List Char) : Option Nat :=
  let digits := cs.filter (· != '_')
  if digits.isEmpty then none
  else digits.foldlM (fun n c => (digitIn? base c).map (base * n + ·)) 0

/-- Whether underscores stand only between digits. Only the characters next to them are looked at,
and a sign may come before the first one. -/
def isGrouped (digit : Char → Bool) (cs : List Char) : Bool :=
  let parts := Text.piecesAt '_' cs
  !cs.contains '_' ||
    (parts.all (!·.isEmpty) && parts.tail.all (·.head?.any digit) &&
      parts.dropLast.all fun part => part.length == 1 || part.getLast?.any digit)

/-! ## Integers -/

/-- Whether the character is a digit of some base. -/
def isAnyDigit (c : Char) : Bool := (hexDigit? c).isSome

/-- The number that a decimal integer with or without a sign stands for. -/
def decimal? : List Char → Option Int
  | '+' :: rest => (digits? 10 rest).map Int.ofNat
  | '-' :: rest => (digits? 10 rest).map fun n => -Int.ofNat n
  | cs => (digits? 10 cs).map Int.ofNat

/-- An integer in another base, of which the prefix is left out. -/
def basedInteger? (base : Nat) (cs : List Char) : Option Value :=
  if cs.all (fun c => c == '_' || (digitIn? base c).isSome) && isGrouped isAnyDigit cs then
    some (.integer ((digits? base cs).map Int.ofNat))
  else none

/-- Whether the text has a zero in front of something else. -/
def hasLeadingZero (cs : List Char) : Bool := cs.head? == some '0' && 1 < cs.length

/-! ## Numbers with a fraction or an exponent -/

/-- The text after a run of digits and underscores, which holds a digit. -/
def afterDigits? (cs : List Char) : Option (List Char) :=
  let run := cs.takeWhile fun c => isDigit c || c == '_'
  if run.any isDigit then some (cs.drop run.length) else none

/-- The text without a sign in front. -/
def dropSign : List Char → List Char
  | '+' :: rest => rest
  | '-' :: rest => rest
  | cs => cs

/-- Whether the text is empty or an exponent. -/
def isExponent : List Char → Bool
  | [] => true
  | c :: rest => (c == 'e' || c == 'E') && (afterDigits? (dropSign rest)).any (·.isEmpty)

/-- Whether the text is a number with a fraction or an exponent, without a sign. -/
def isFloat (cs : List Char) : Bool :=
  let digits := (cs.takeWhile fun c => isDigit c || c == '_').countP isDigit
  !(cs.head? == some '0' && 1 < digits) &&
    match afterDigits? cs with
    | none => false
    | some ('.' :: fraction) => (afterDigits? fraction).any isExponent
    | some rest => isExponent rest

/-! ## Points in time -/

/-- A number of exactly `count` decimal digits. -/
def fixed? (count : Nat) (cs : List Char) : Option Nat :=
  if cs.length = count ∧ cs.all isDigit then digits? 10 cs else none

/-- Whether the text is a number of `count` digits between two bounds. -/
def isNumber (count low high : Nat) (cs : List Char) : Bool :=
  (fixed? count cs).any fun n => low ≤ n && n ≤ high

/-- The number of days of a month. -/
def daysIn (year month : Nat) : Nat :=
  if month = 2 then
    if year % 4 = 0 ∧ (year % 100 ≠ 0 ∨ year % 400 = 0) then 29 else 28
  else if [4, 6, 9, 11].contains month then 30
  else 31

/-- Whether the text is a date. -/
def isDate (cs : List Char) : Bool :=
  match Text.piecesAt '-' cs with
  | [year, month, day] =>
    match fixed? 4 year, fixed? 2 month with
    | some y, some m => 1 ≤ m && m ≤ 12 && isNumber 2 1 (daysIn y m) day
    | _, _ => false
  | _ => false

/-- Whether the text is a number of seconds with or without a fraction. -/
def isSeconds (cs : List Char) : Bool :=
  isNumber 2 0 60 (cs.take 2) &&
    match cs.drop 2 with
    | [] => true
    | '.' :: fraction => !fraction.isEmpty && fraction.all isDigit
    | _ => false

/-- Whether the text is a time of day; the seconds may be left out. -/
def isTime (cs : List Char) : Bool :=
  match Text.piecesAt ':' cs with
  | [hour, minute] => isNumber 2 0 23 hour && isNumber 2 0 59 minute
  | [hour, minute, second] =>
    isNumber 2 0 23 hour && isNumber 2 0 59 minute && isSeconds second
  | _ => false

/-- Whether the text is a time of day with or without a distance from universal time. -/
def isZonedTime (cs : List Char) : Bool :=
  let time := cs.takeWhile fun c => isDigit c || c == ':' || c == '.'
  isTime time &&
    match cs.drop time.length with
    | [] => true
    | [z] => z == 'z' || z == 'Z'
    | sign :: distance =>
      (sign == '+' || sign == '-') &&
        match Text.piecesAt ':' distance with
        | [hour, minute] => isNumber 2 0 23 hour && isNumber 2 0 59 minute
        | _ => false

/-- Whether the text is a point in time: a date, a time of day, or both. -/
def isMoment (cs : List Char) : Bool :=
  isDate cs || isTime cs ||
    (isDate (cs.take 10) &&
      match cs.drop 10 with
      | c :: time => (c == 'T' || c == 't' || c == ' ') && isZonedTime time
      | [] => false)

/-! ## Scalars -/

/-- The value of a text that starts with a digit after its sign, which `unsigned` leaves out. What
comes after the first digits says what it is. -/
def number? (cs unsigned : List Char) : Option Value :=
  let after := unsigned.dropWhile isDigit
  if after.head? == some '-' || after.head? == some ':' then
    if isMoment cs then some (.moment (String.ofList cs)) else none
  else if after.any fun c => c == '.' || c == 'e' || c == 'E' then
    if isFloat unsigned && isGrouped isDigit cs then some (.float (String.ofList cs)) else none
  else if (after.isEmpty || after.head? == some '_') && !hasLeadingZero unsigned &&
      isGrouped isAnyDigit cs then
    some (.integer (decimal? cs))
  else none

/-- The value of a scalar. -/
def scalarValue? (cs : List Char) : Option Value :=
  if cs = "true".toList then some (.boolean true)
  else if cs = "false".toList then some (.boolean false)
  else
    let unsigned := dropSign cs
    if unsigned = "inf".toList ∨ unsigned = "nan".toList then some (.float (String.ofList cs))
    else match unsigned with
      | '0' :: 'x' :: rest => if cs = unsigned then basedInteger? 16 rest else none
      | '0' :: 'o' :: rest => if cs = unsigned then basedInteger? 8 rest else none
      | '0' :: 'b' :: rest => if cs = unsigned then basedInteger? 2 rest else none
      | c :: _ => if isDigit c || c == '_' then number? cs unsigned else none
      | [] => none

/-- Whether the character can be part of a scalar: all can but those that mean something between
values. -/
def isScalarChar (c : Char) : Bool :=
  "=[],\x7b\x7d \t#\r\n'\"".toList.all (· != c)

/-- A scalar and the text after it. A blank may stand between the date and the time of a point in
time. -/
def scalar? (text : List Char) : Option (Value × List Char) :=
  let word := text.takeWhile isScalarChar
  let after := text.drop word.length
  match after with
  | ' ' :: d :: rest =>
    if isDate word && isDigit d then
      let time := (d :: rest).takeWhile isScalarChar
      (scalarValue? (word ++ ' ' :: time)).map (·, (d :: rest).drop time.length)
    else (scalarValue? word).map (·, after)
  | _ => (scalarValue? word).map (·, after)

end StyleCheck.Toml
