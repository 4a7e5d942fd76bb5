import StyleCheck.Toml.Quoted

/-!
# Writing strings of TOML

A string is written in the form that shows it best: with plain quotes if nothing needs an escape,
else as a literal string if that can hold it, else with three quotes, and with escapes only where
nothing else is left.
-/

namespace StyleCheck.Toml

/-! ## What a string holds -/

/-- The longest run of a character, after a run of `current`. -/
def longestRun (c : Char) : (current : Nat) → List Char → Nat
  | current, [] => current
  | current, x :: rest =>
    if x = c then longestRun c (current + 1) rest else max current (longestRun c 0 rest)

/-- A control character other than tab and line feed. -/
def isControl (c : Char) : Bool :=
  c != '\t' && c != '\n' && (c.toNat < 0x20 || c.toNat == 0x7F)

/-! ## Forms -/

/-- The digits of a number in hexadecimal, in upper case, filled up to four. -/
def fourDigits (n : Nat) : List Char :=
  [n / 4096, n / 256, n / 16, n].map fun d =>
    let d := d % 16
    if d < 10 then Char.ofNat (48 + d) else Char.ofNat (55 + d)

/-- A character of a basic string. -/
def escape (c : Char) : List Char :=
  if c = '"' then ['\\', '"']
  else if c = '\\' then ['\\', '\\']
  else if c = '\t' then ['\\', 't']
  else if c = '\n' then ['\\', 'n']
  else if c = '\x0c' then ['\\', 'f']
  else if c = '\r' then ['\\', 'r']
  else if c = '\x08' then ['\\', 'b']
  else if isControl c then '\\' :: 'u' :: fourDigits c.toNat
  else [c]

/-- The characters of a basic string on several lines, of which the last `quotes` were quotes. No
more than two quotes in a row stay as they are, and line feeds do. -/
def escapeLines : (quotes : Nat) → List Char → List Char
  | _, [] => []
  | quotes, '"' :: rest =>
    if quotes < 2 then '"' :: escapeLines (quotes + 1) rest
    else '\\' :: '"' :: escapeLines 0 rest
  | _, '\n' :: rest => '\n' :: escapeLines 0 rest
  | _, c :: rest => escape c ++ escapeLines 0 rest

/-- A basic string on one line. -/
def basic (text : List Char) : List Char := '"' :: text.flatMap escape ++ ['"']

/-- A literal string on one line. -/
def literal (text : List Char) : List Char := '\'' :: text ++ ['\'']

/-- What comes between the quotes and the text of a string that may have several lines: a line of
its own if it has. -/
def lineStart (text : List Char) : List Char := if text.contains '\n' then ['\n'] else []

/-- A basic string that may have several lines. -/
def basicLines (text : List Char) : List Char :=
  '"' :: '"' :: '"' :: lineStart text ++ escapeLines 0 text ++ ['"', '"', '"']

/-- A literal string that may have several lines. -/
def literalLines (text : List Char) : List Char :=
  '\'' :: '\'' :: '\'' :: lineStart text ++ text ++ ['\'', '\'', '\'']

/-- The form in which a string is written. -/
def write (text : List Char) : List Char :=
  let hasControl := text.any isControl
  let hasLineFeed := text.contains '\n'
  let hasBackslash := text.contains '\\'
  if !hasControl && !hasBackslash && !text.contains '"' && !hasLineFeed then basic text
  else if !hasControl && !text.contains '\'' && !hasLineFeed then literal text
  else if !hasControl && !hasBackslash && longestRun '"' 0 text ≤ 2 then basicLines text
  else if !hasControl && longestRun '\'' 0 text ≤ 2 then literalLines text
  else if hasLineFeed then basicLines text
  else basic text

end StyleCheck.Toml
