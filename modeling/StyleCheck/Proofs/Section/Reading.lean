import StyleCheck.Proofs.Section.Braces

/-!
# Reading a pattern, case by case

`parse` looks at most three characters ahead. Each lemma here says what it makes of one shape of
text, so that what is proved about patterns goes by these shapes.
-/

namespace StyleCheck.Section

-- The lemmas below share the equations of the reader, which are made once here.
attribute [grind =] parse

variable {c : Char} {text rest body after : List Char}

@[simp] theorem parse_nil : parse [] = [] := by
  rw [parse]

theorem parse_escaped : parse ('\\' :: c :: rest) = .char c :: parse rest := by
  rw [parse]

theorem parse_directories : parse ('*' :: '*' :: '/' :: rest) = .directories :: parse rest := by
  rw [parse]

theorem parse_anything (h : rest.head? ≠ some '/') :
    parse ('*' :: '*' :: rest) = .anything :: parse rest := by
  rw [parse]
  rintro more rfl
  exact h rfl

theorem parse_star (h : rest.head? ≠ some '*') : parse ('*' :: rest) = .star :: parse rest := by
  rw [parse]
  · rintro more rfl
    exact h rfl
  · rintro more rfl
    exact h rfl

theorem parse_one : parse ('?' :: rest) = .one :: parse rest := by
  rw [parse]

theorem parse_bracket {negated : Bool} (h : bracket? rest = some (negated, body, after)) :
    parse ('[' :: rest) = .bracket negated body :: parse after := by
  rw [parse]
  split
  next found =>
    rw [h] at found
    cases found
    rfl
  next found => simp [h] at found

theorem parse_openBracket (h : bracket? rest = none) :
    parse ('[' :: rest) = .char '[' :: parse rest := by
  rw [parse]
  split
  next found => simp [h] at found
  · rfl

theorem parse_unbalanced (h : braceBody? 0 rest = none) :
    parse ('{' :: rest) = .char '{' :: parse rest := by
  rw [parse]
  split
  next found => simp [h] at found
  · rfl

theorem parse_group (h : braceBody? 0 rest = some (body, after)) :
    parse ('{' :: rest) = (match integers? body with
      | some (n, m) => [.range (min n m) (max n m)]
      | none =>
        if (parts 0 body).length < 2 then .char '{' :: parse body ++ [.char '}']
        else [.either ((parts 0 body).map parse)]) ++ parse after := by
  rw [parse]
  split
  next body' after' found =>
    rw [h] at found
    cases found
    cases integers? body with
    | some bounds => rfl
    | none =>
      dsimp only
      split
      · rfl
      · exact congrArg (fun list => [Piece.either list] ++ parse after) List.attach_map_val
  next found => simp [h] at found

theorem parse_char (hstar : c ≠ '*') (hone : c ≠ '?') (hset : c ≠ '[') (hgroup : c ≠ '{')
    (hescape : c = '\\' → rest = []) : parse (c :: rest) = .char c :: parse rest := by
  rw [parse] <;> simp_all

end StyleCheck.Section
