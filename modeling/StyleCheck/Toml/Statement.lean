import StyleCheck.Toml.Scalar

/-!
# Statements of TOML

A document is a sequence of statements, one per line: headers of tables and assignments to keys.
Reading is by recursive descent. The number of its steps is bounded by the length of the text,
because every step takes at least one character; arrays and inline tables are nested no deeper than
`maxDepth`.
-/

namespace StyleCheck.Toml

/-! ## Between the tokens -/

/-- The text without the blanks it starts with. -/
def skipBlanks (text : List Char) : List Char := text.dropWhile fun c => c == ' ' || c == '\t'

/-- The text without the blanks, line ends and comments it starts with. -/
def skipFiller (inComment : Bool) : List Char → List Char
  | [] => []
  | '\n' :: rest => skipFiller false rest
  | '\r' :: '\n' :: rest => skipFiller false rest
  | c :: rest =>
    if inComment then if isPlain c then skipFiller true rest else c :: rest
    else if c = ' ' ∨ c = '\t' then skipFiller false rest
    else if c = '#' then skipFiller true rest
    else c :: rest

/-- The text after the end of the line, before which only blanks and a comment may stand. -/
def endLine? (text : List Char) : Option (List Char) :=
  let text := skipBlanks text
  let text := match text with
    | '#' :: comment => comment.dropWhile isPlain
    | _ => text
  match text with
  | [] => some []
  | '\n' :: rest => some rest
  | '\r' :: '\n' :: rest => some rest
  | _ => none

/-! ## Keys -/

/-- Whether the character can be part of a key without quotes. -/
def isBareKeyChar (c : Char) : Bool :=
  isDigit c || ('a' ≤ c && c ≤ 'z') || ('A' ≤ c && c ≤ 'Z') || c == '_' || c == '-'

/-- A key without dots, with quotes on one line or without quotes. -/
def simpleKey? (text : List Char) : Option (String × List Char) :=
  let read := match text with
    | '"' :: rest => basic? rest
    | '\'' :: rest => literal? rest
    | _ =>
      let word := text.takeWhile isBareKeyChar
      if word.isEmpty then none else some (word, text.drop word.length)
  read.map fun (key, rest) => (String.ofList key, rest)

/-- A key: names separated by dots, which blanks may surround. -/
def key? : (fuel : Nat) → List Char → Option (List String × List Char)
  | 0, _ => none
  | fuel + 1, text => do
    let (name, rest) ← simpleKey? text
    match skipBlanks rest with
    | '.' :: more =>
      let (names, rest) ← key? fuel (skipBlanks more)
      some (name :: names, rest)
    | rest => some ([name], rest)

/-! ## Assembling tables -/

/-- What is wrong with a document. -/
inductive Fault
  | malformed
  | redefined (key : String)
  | unknownKey (key : String)
  | wrongType (key : String)
  deriving DecidableEq, Repr

/-- The text that reports the fault. -/
def Fault.message : Fault → String
  | malformed => "invalid syntax"
  | redefined key => "duplicate key " ++ key
  | unknownKey key => "unknown field " ++ key
  | wrongType key => "invalid type for " ++ key

/-- Give a table that may have been there before to a key. `change` gets the table that is there,
if any. -/
def changeTable (key : String) (change : Option (Origin × Entries) → Except Fault (Origin × Entries)) :
    Entries → Except Fault Entries
  | [] => do
    let (origin, entries) ← change none
    pure [(key, .table origin entries)]
  | (k, value) :: rest =>
    if k = key then
      match value with
      | .table origin entries => do
        let (origin, entries) ← change (some (origin, entries))
        pure ((k, .table origin entries) :: rest)
      | _ => .error (.redefined key)
    else do
      let rest ← changeTable key change rest
      pure ((k, value) :: rest)

/-- Assign a value to a dotted key. The tables on the way are made by dotted keys. -/
def assign (value : Value) : List String → Entries → Except Fault Entries
  | [], _ => .error .malformed
  | [key], entries =>
    if (entries.lookup key).isSome then .error (.redefined key)
    else .ok (entries ++ [(key, value)])
  | key :: keys, entries =>
    changeTable key
      (fun
        | none => do pure (.dotted, ← assign value keys [])
        | some (.dotted, inner) => do pure (.dotted, ← assign value keys inner)
        | some _ => .error (.redefined key))
      entries

/-- Open the table of a header. It may have been implied, but not defined before. -/
def openTable : List String → Entries → Except Fault Entries
  | [], _ => .error .malformed
  | [key], entries =>
    changeTable key
      (fun
        | none => .ok (.header, [])
        | some (.implied, inner) => .ok (.header, inner)
        | some _ => .error (.redefined key))
      entries
  | key :: keys, entries =>
    changeTable key
      (fun
        | none => do pure (.implied, ← openTable keys [])
        | some (.inline, _) => .error (.redefined key)
        | some (origin, inner) => do pure (origin, ← openTable keys inner))
      entries

/-- Change what a path of keys leads to. -/
def changeAt (change : Entries → Except Fault Entries) :
    List String → Entries → Except Fault Entries
  | [], entries => change entries
  | key :: keys, entries =>
    changeTable key
      (fun
        | some (origin, inner) => do pure (origin, ← changeAt change keys inner)
        | none => .error (.unknownKey key))
      entries

/-! ## Values -/

/-- How deep arrays and inline tables may be nested. -/
def maxDepth : Nat := 80

mutual

/-- A value that may be nested `depth` deep, and the text after it. -/
def value? (depth : Nat) : (fuel : Nat) → List Char → Option (Value × List Char)
  | 0, _ => none
  | fuel + 1, text =>
    match text, depth with
    | '"' :: _, _ => (quoted? text).map fun (s, rest) => (.string (String.ofList s), rest)
    | '\'' :: _, _ => (quoted? text).map fun (s, rest) => (.string (String.ofList s), rest)
    | '[' :: rest, depth + 1 => (items? depth fuel (skipFiller false rest)).map fun (items, rest) =>
      (.array items, rest)
    | '\x7b' :: rest, depth + 1 =>
      (pairs? depth fuel [] (skipFiller false rest)).map fun (entries, rest) =>
        (.table .inline entries, rest)
    | _, _ => scalar? text

/-- The items of an array and the text after its closing bracket. -/
def items? (depth : Nat) : (fuel : Nat) → List Char → Option (List Value × List Char)
  | 0, _ => none
  | fuel + 1, text =>
    match text with
    | ']' :: rest => some ([], rest)
    | _ => do
      let (item, rest) ← value? depth fuel text
      match skipFiller false rest with
      | ',' :: more =>
        let (items, rest) ← items? depth fuel (skipFiller false more)
        some (item :: items, rest)
      | ']' :: rest => some ([item], rest)
      | _ => none

/-- The entries of an inline table, added to those read so far, and the text after its closing
brace. -/
def pairs? (depth : Nat) : (fuel : Nat) → Entries → List Char → Option (Entries × List Char)
  | 0, _, _ => none
  | fuel + 1, entries, text =>
    match text with
    | '\x7d' :: rest => some (entries, rest)
    | _ => do
      let (key, rest) ← key? fuel text
      match skipBlanks rest with
      | '=' :: rest =>
        let (value, rest) ← value? depth fuel (skipBlanks rest)
        match assign value key entries with
        | .error _ => none
        | .ok entries =>
          match skipFiller false rest with
          | ',' :: more => pairs? depth fuel entries (skipFiller false more)
          | '\x7d' :: rest => some (entries, rest)
          | _ => none
      | _ => none

end

/-! ## Documents -/

/-- A statement. Headers of arrays of tables are not among them, because no option takes such an
array. -/
inductive Statement
  | header (path : List String)
  | assignment (path : List String) (value : Value)

/-- A statement and the text after its line. -/
def statement? (fuel : Nat) (text : List Char) : Option (Statement × List Char) :=
  match text with
  | '[' :: rest => do
    let (path, rest) ← key? fuel (skipBlanks rest)
    match skipBlanks rest with
    | ']' :: rest => (endLine? rest).map (.header path, ·)
    | _ => none
  | _ => do
    let (path, rest) ← key? fuel text
    match skipBlanks rest with
    | '=' :: rest =>
      let (value, rest) ← value? maxDepth fuel (skipBlanks rest)
      (endLine? rest).map (.assignment path value, ·)
    | _ => none

/-- The statements of a text. -/
def statements? : (fuel : Nat) → List Char → Option (List Statement)
  | 0, _ => none
  | fuel + 1, text =>
    match skipFiller false text with
    | [] => some []
    | start => do
      let (statement, rest) ← statement? fuel start
      (statements? fuel rest).map (statement :: ·)

/-- What statements make of a document, of which `current` is the path of the table in hand. -/
def build (current : List String) (entries : Entries) : List Statement → Except Fault Entries
  | [] => .ok entries
  | .header path :: statements => do
    build path (← openTable path entries) statements
  | .assignment path value :: statements => do
    build current (← changeAt (assign value path) current entries) statements

/-- The entries of a document. A byte order mark in front is left out. -/
def parse (text : List Char) : Except Fault Entries :=
  let text := match text with
    | '\uFEFF' :: rest => rest
    | _ => text
  match statements? (text.length + 2) text with
  | none => .error .malformed
  | some statements => build [] [] statements

end StyleCheck.Toml
