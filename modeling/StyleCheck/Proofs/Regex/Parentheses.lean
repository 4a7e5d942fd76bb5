import StyleCheck.Regex.Syntax

/-!
# The parentheses of an expression's text

`parentheses 0 text` are the parentheses in the text of an expression that open and close groups,
from left to right. Each one comes with the text from it on, which tells its place. A backslash
makes the character behind it literal, and in a set a parenthesis is only listed.

The groups that report their text are numbered by where they open, so `captureStarts` has them in
the order of their numbers.
-/

namespace StyleCheck.Regex

/-- What a parenthesis does in the text of an expression. -/
inductive Parenthesis
  /-- It opens a group that reports its text. -/
  | captures
  /-- It opens a group that does not. -/
  | groups
  /-- It closes a group. -/
  | closes
  deriving DecidableEq

/-- What an opening parenthesis in front of the text does. Of the groups that go on with `?` those
with a name report their text. -/
def Parenthesis.opening : List Char → Parenthesis
  | '?' :: 'P' :: '<' :: _ | '?' :: '<' :: _ => captures
  | '?' :: _ => groups
  | _ => captures

/-- The parentheses of groups in a text that stands in so many sets, each with the text from it on.
A closing bracket that comes first in a set is listed. -/
def parentheses : (sets : Nat) → List Char → List (List Char × Parenthesis)
  | _, [] => []
  | sets, '\\' :: _ :: rest => parentheses sets rest
  | sets, '[' :: '^' :: ']' :: rest => parentheses (sets + 1) rest
  | sets, '[' :: ']' :: rest => parentheses (sets + 1) rest
  | sets, '[' :: rest => parentheses (sets + 1) rest
  | sets + 1, ']' :: rest => parentheses sets rest
  | 0, '(' :: rest => ('(' :: rest, .opening rest) :: parentheses 0 rest
  | 0, ')' :: rest => (')' :: rest, .closes) :: parentheses 0 rest
  | sets, _ :: rest => parentheses sets rest

/-- Where the groups that report their text start, from left to right. -/
def captureStarts (text : List Char) : List (List Char) :=
  ((parentheses 0 text).filter (·.2 = .captures)).map Prod.fst

variable {c : Char} {sets : Nat} {rest : List Char}

@[simp]
theorem parentheses_escaped : parentheses sets ('\\' :: c :: rest) = parentheses sets rest := by
  rw [parentheses]

@[simp]
theorem parentheses_open :
    parentheses 0 ('(' :: rest) = ('(' :: rest, .opening rest) :: parentheses 0 rest := by
  rw [parentheses]

@[simp]
theorem parentheses_close :
    parentheses 0 (')' :: rest) = (')' :: rest, .closes) :: parentheses 0 rest := by
  rw [parentheses]

theorem parentheses_set (hclose : rest.head? ≠ some ']')
    (hnegated : ∀ more, rest = '^' :: more → more.head? ≠ some ']') :
    parentheses sets ('[' :: rest) = parentheses (sets + 1) rest := by
  rw [parentheses]
  · rintro more rfl
    exact hnegated _ rfl rfl
  · rintro more rfl
    exact hclose rfl

@[simp]
theorem parentheses_setEnd : parentheses (sets + 1) (']' :: rest) = parentheses sets rest := by
  rw [parentheses]

theorem parentheses_plain (h : c ∉ ['\\', '[', ']', '(', ')']) :
    parentheses sets (c :: rest) = parentheses sets rest := by
  simp only [List.mem_cons, List.not_mem_nil, or_false, not_or] at h
  rw [parentheses.eq_def]
  split <;> simp_all

/-- However a character is written, it is no parenthesis. -/
theorem parentheses_escape (c : Char) :
    parentheses sets (escape c ++ rest) = parentheses sets rest := by
  unfold escape
  split
  · exact parentheses_escaped
  next hmeta =>
    refine parentheses_plain fun hmem => hmeta ?_
    simp only [List.mem_cons, List.not_mem_nil, or_false] at hmem
    rcases hmem with rfl | rfl | rfl | rfl | rfl <;> rfl

end StyleCheck.Regex
