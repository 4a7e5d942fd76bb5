/-!
# Strings of TOML

The four ways to write a string: basic and literal, on one line or on several. Basic strings have
escapes; literal ones hold their characters as they are. Every reader takes the text after the
opening quotes and gives the characters and the text after the closing ones.
-/

namespace StyleCheck.Toml

/-- The characters that may stand in a comment and, quotes and escapes apart, in a string on one
line: all but control characters, of which only the tab is allowed. -/
def isPlain (c : Char) : Bool := c == '\t' || (0x20 ≤ c.toNat && c.toNat != 0x7F)

/-- The value of a hexadecimal digit. -/
def hexDigit? (c : Char) : Option Nat :=
  if '0' ≤ c ∧ c ≤ '9' then some (c.toNat - 48)
  else if 'a' ≤ c ∧ c ≤ 'f' then some (c.toNat - 87)
  else if 'A' ≤ c ∧ c ≤ 'F' then some (c.toNat - 55)
  else none

/-- The character with a hexadecimal number; `none` for a surrogate and beyond the last one. -/
def numbered? (digits : List Char) : Option Char := do
  let values ← digits.mapM hexDigit?
  let n := values.foldl (fun n d => 16 * n + d) 0
  if n < 0xD800 ∨ (0xDFFF < n ∧ n < 0x110000) then some (Char.ofNat n) else none

/-- The character of an escape of one letter. -/
def escaped? (c : Char) : Option Char :=
  [('b', '\x08'), ('t', '\t'), ('n', '\n'), ('f', '\x0c'), ('r', '\r'), ('e', '\x1b'), ('"', '"'),
    ('\\', '\\')].lookup c

/-- Put a character in front of what has been read. -/
def consChar (c : Option Char) (read : Option (List Char × List Char)) :
    Option (List Char × List Char) := do
  let c ← c
  let (chars, rest) ← read
  some (c :: chars, rest)

/-- A basic string on one line. -/
def basic? : List Char → Option (List Char × List Char)
  | [] => none
  | '"' :: rest => some ([], rest)
  | '\\' :: 'x' :: a :: b :: rest => consChar (numbered? [a, b]) (basic? rest)
  | '\\' :: 'u' :: a :: b :: c :: d :: rest => consChar (numbered? [a, b, c, d]) (basic? rest)
  | '\\' :: 'U' :: a :: b :: c :: d :: e :: f :: g :: h :: rest =>
    consChar (numbered? [a, b, c, d, e, f, g, h]) (basic? rest)
  | '\\' :: c :: rest => consChar (escaped? c) (basic? rest)
  | c :: rest => if isPlain c then consChar (some c) (basic? rest) else none

/-- A literal string on one line. -/
def literal? : List Char → Option (List Char × List Char)
  | [] => none
  | '\'' :: rest => some ([], rest)
  | c :: rest => if isPlain c then consChar (some c) (literal? rest) else none

/-- The text without a line end that it starts with. -/
def dropLineEnd : List Char → List Char
  | '\n' :: rest => rest
  | '\r' :: '\n' :: rest => rest
  | text => text

/-- Whether the text goes on with blanks and a line end. -/
def isLineEndNext (text : List Char) : Bool :=
  match text.dropWhile fun c => c == ' ' || c == '\t' with
  | '\n' :: _ => true
  | '\r' :: '\n' :: _ => true
  | _ => false

/-- The end of a string on several lines, after three quotes: up to two more belong to the
string. -/
def closing (quote : Char) : List Char → List Char × List Char
  | a :: b :: rest =>
    if a = quote then if b = quote then ([a, b], rest) else ([a], b :: rest) else ([], a :: b :: rest)
  | [a] => if a = quote then ([a], []) else ([], [a])
  | [] => ([], [])

/-- A basic string on several lines. `joining` says that the blanks and line ends that come next
are left out, as they are after a backslash at the end of a line. -/
def basicLines? (joining : Bool) : List Char → Option (List Char × List Char)
  | [] => none
  | '\r' :: '\n' :: rest =>
    if joining then basicLines? true rest
    else consChar (some '\r') (consChar (some '\n') (basicLines? false rest))
  | '\n' :: rest =>
    if joining then basicLines? true rest else consChar (some '\n') (basicLines? false rest)
  | '"' :: '"' :: '"' :: rest => some (closing '"' rest)
  | '\\' :: 'x' :: a :: b :: rest => consChar (numbered? [a, b]) (basicLines? false rest)
  | '\\' :: 'u' :: a :: b :: c :: d :: rest =>
    consChar (numbered? [a, b, c, d]) (basicLines? false rest)
  | '\\' :: 'U' :: a :: b :: c :: d :: e :: f :: g :: h :: rest =>
    consChar (numbered? [a, b, c, d, e, f, g, h]) (basicLines? false rest)
  | '\\' :: '"' :: rest => consChar (some '"') (basicLines? false rest)
  | '\\' :: '\\' :: rest => consChar (some '\\') (basicLines? false rest)
  | '\\' :: rest =>
    if isLineEndNext rest then basicLines? true rest
    else match rest with
      | c :: more => consChar (escaped? c) (basicLines? false more)
      | [] => none
  | c :: rest =>
    if joining && (c == ' ' || c == '\t') then basicLines? true rest
    else if isPlain c then consChar (some c) (basicLines? false rest)
    else none

/-- A literal string on several lines. -/
def literalLines? : List Char → Option (List Char × List Char)
  | [] => none
  | '\r' :: '\n' :: rest => consChar (some '\r') (consChar (some '\n') (literalLines? rest))
  | '\n' :: rest => consChar (some '\n') (literalLines? rest)
  | '\'' :: '\'' :: '\'' :: rest => some (closing '\'' rest)
  | c :: rest => if isPlain c then consChar (some c) (literalLines? rest) else none

/-- A string of any kind, from its opening quotes on. -/
def quoted? : List Char → Option (List Char × List Char)
  | '"' :: '"' :: '"' :: rest => basicLines? false (dropLineEnd rest)
  | '\'' :: '\'' :: '\'' :: rest => literalLines? (dropLineEnd rest)
  | '"' :: rest => basic? rest
  | '\'' :: rest => literal? rest
  | _ => none

end StyleCheck.Toml
