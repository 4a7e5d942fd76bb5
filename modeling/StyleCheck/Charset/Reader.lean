/-!
# Tables and readers

A charset without modes is described by what stands at the start of a byte string: the characters
and how many bytes they take. Decoding repeats that to the end and fails where nothing can be
read. The characters themselves come from tables by number.
-/

namespace StyleCheck.Charset

/-! ## Character tables

Numbers without a character are common, so a table marks them: no charset lists an ASCII character
in a table, which leaves `.` free for the mark. -/

/-- Characters numbered from zero, in rows of `width`. Rows may end early. -/
structure Table where
  width : Nat
  rows : Array String

namespace Table

/-- The mark for a number without a character. -/
def hole : Char := '.'

/-- The character with a number. -/
def at? (table : Table) (number : Nat) : Option Char := do
  let row ← table.rows[number / table.width]?
  let c ← row.toList[number % table.width]?
  if c = hole then none else some c

end Table

/-! ## Readers -/

/-- What stands at the start of a byte string, given as its first byte and the bytes after it: the
characters, and how many bytes after the first they take. -/
abbrev Reader := UInt8 → List UInt8 → Option (List Char × Nat)

namespace Reader

/-- The text of a byte string. -/
def decode? (read : Reader) : List UInt8 → Option (List Char)
  | [] => some []
  | b :: rest =>
    match read b rest with
    | none => none
    | some (chars, taken) => (decode? read (rest.drop taken)).map (chars ++ ·)
termination_by bytes => bytes.length
decreasing_by
  simp only [List.length_drop, List.length_cons]
  omega

/-- The pieces of a byte string: the bytes of each, and the characters that they stand for. -/
def pieces? (read : Reader) : List UInt8 → Option (List (List UInt8 × List Char))
  | [] => some []
  | b :: rest =>
    match read b rest with
    | none => none
    | some (chars, taken) =>
      (pieces? read (rest.drop taken)).map ((b :: rest.take taken, chars) :: ·)
termination_by bytes => bytes.length
decreasing_by
  simp only [List.length_drop, List.length_cons]
  omega

/-- A character that takes the first byte and `taken` more. -/
def one (c : Option Char) (taken : Nat) : Option (List Char × Nat) := c.map fun c => ([c], taken)

/-- A byte that is an ASCII character. -/
def ascii (b : UInt8) : Option (List Char × Nat) := some ([Char.ofNat b.toNat], 0)

end Reader

/-- Whether a byte lies between two others. -/
def within (first last b : UInt8) : Bool := first ≤ b && b ≤ last

end StyleCheck.Charset
