import StyleCheck.Charset.EastAsian
import StyleCheck.Charset.Gb18030
import StyleCheck.Charset.Table.SingleByte
import StyleCheck.Proofs.Text.FirstLine

/-!
# No table holds an end of line

All characters of the tables come after the carriage return, so none of them ends a line
(`IsLineFree.isLine`), and the ends of the lines of a decoded text come from bytes that are ASCII.
This is a fact about the tables as they are written, and is checked on all of their characters.
-/

namespace StyleCheck.Charset

open Text (IsLine)

namespace Table

variable {rows : List String} {lists : List (List Char)} {chars : List Char} {table : Table}
  {number : Nat} {c : Char}

theorem at?_of_row (hrow : table.rows[number / table.width]? = some (String.ofList chars))
    (hchar : chars[number % table.width]? = some c) (hc : c ≠ hole) : table.at? number = some c := by
  unfold at?
  rw [hrow]
  simp [String.toList_ofList, hchar, hc]

/-- The rows, character by character. -/
def Lists (rows : List String) (lists : List (List Char)) : Prop :=
  rows = lists.map String.ofList

theorem lists_nil : Lists [] [] := rfl

theorem lists_cons (h : Lists rows lists) :
    Lists (String.ofList chars :: rows) (chars :: lists) :=
  congrArg (String.ofList chars :: ·) h

/-- The characters of the row that several single-byte tables begin with. -/
theorem lists_controls (h : Lists rows lists) :
    Lists (SingleByte.controls :: rows)
      (((List.range 32).map fun i => Char.ofNat (0x80 + i)) :: lists) := by
  have hcontrols : SingleByte.controls =
      String.ofList ((List.range 32).map fun i => Char.ofNat (0x80 + i)) :=
    String.ofList_append.symm
  rw [hcontrols]
  exact lists_cons h

/-- Whether all characters come after the carriage return. -/
def areLate (lists : List (List Char)) : Bool :=
  lists.all fun chars => chars.all fun c => Nat.blt 13 c.toNat

/-- All characters of the table come after the carriage return. -/
def IsLineFree (table : Table) : Prop :=
  ∃ lists, Lists table.rows.toList lists ∧ areLate lists = true

theorem isLineFree (h : Lists table.rows.toList lists) (hlate : areLate lists = true) :
    table.IsLineFree := ⟨lists, h, hlate⟩

theorem IsLineFree.isLine (h : table.IsLineFree) (hat : table.at? number = some c) :
    IsLine [c] := by
  obtain ⟨lists, hlists, hlate⟩ := h
  unfold at? at hat
  obtain ⟨row, hrow, hat⟩ := Option.bind_eq_some_iff.1 hat
  obtain ⟨char, hchar, hat⟩ := Option.bind_eq_some_iff.1 hat
  obtain ⟨-, ⟨⟩⟩ := Option.ite_none_left_eq_some.1 hat
  have hmem : row ∈ table.rows.toList := Array.mem_toList_iff.2 (Array.mem_of_getElem? hrow)
  rw [hlists] at hmem
  obtain ⟨chars, hchars, rfl⟩ := List.mem_map.1 hmem
  rw [String.toList_ofList] at hchar
  have hlate := List.all_eq_true.1 (List.all_eq_true.1 hlate chars hchars) c
    (List.mem_of_getElem? hchar)
  have hlate : 13 < c.toNat := Nat.blt_eq ▸ hlate
  refine Text.isLine_cons.2 ⟨?_, ?_, Text.isLine_nil⟩
  · rintro rfl
    exact absurd hlate (by decide)
  · rintro rfl
    exact absurd hlate (by decide)

/-! ## The tables -/

theorem isLineFree_jis0208 : jis0208.IsLineFree := by
  apply isLineFree
  · unfold jis0208
    repeat' apply lists_cons
    exact lists_nil
  · decide +kernel

theorem isLineFree_jis0212 : jis0212.IsLineFree := by
  apply isLineFree
  · unfold jis0212
    repeat' apply lists_cons
    exact lists_nil
  · decide +kernel

theorem isLineFree_korean : korean.IsLineFree := by
  apply isLineFree
  · unfold korean
    repeat' apply lists_cons
    exact lists_nil
  · decide +kernel

theorem isLineFree_big5 : big5.IsLineFree := by
  apply isLineFree
  · unfold big5
    repeat' apply lists_cons
    exact lists_nil
  · decide +kernel

theorem isLineFree_chinese : chinese.IsLineFree := by
  apply isLineFree
  · unfold chinese
    repeat' apply lists_cons
    exact lists_nil
  · decide +kernel

theorem isLineFree_upper (charset : SingleByte) : charset.upper.IsLineFree := by
  cases charset
  all_goals
    apply isLineFree
    · unfold SingleByte.upper
      repeat' first | apply lists_cons | apply lists_controls
      exact lists_nil
    · decide +kernel

end Table

end StyleCheck.Charset
