import StyleCheck.Proofs.Text.Split
import StyleCheck.Proofs.Text.Trim
import StyleCheck.Text.Lines
import Mathlib.Data.List.Forall2

/-!
# Records and the pieces between line feeds

The records of a text are its pieces between line feeds, as far as trimming goes. They are narrower
in two ways: a piece may end in a carriage return that the record lacks, and an empty piece at the
end of the text is no record (`forall₂_records`). With pairs of a carriage return and a line feed in
place of the line feeds, the pieces are the same but for the carriage returns
(`forall₂_replaceWith`).
-/

namespace StyleCheck.Text

variable {text rest line piece : List Char} {pieces : List (List Char)} {c : Char}

/-! ## Pieces -/

theorem splitOn_lf (rest : List Char) :
    ('\n' :: rest).splitOn '\n' = [] :: rest.splitOn '\n' := by
  rw [List.splitOn_cons_eq_if_modifyHead]
  rfl

theorem splitOn_char (hc : c ≠ '\n') (h : rest.splitOn '\n' = piece :: pieces) :
    (c :: rest).splitOn '\n' = (c :: piece) :: pieces := by
  have hc : (c == '\n') = false := beq_eq_false_iff_ne.2 hc
  simp [List.splitOn_cons_eq_if_modifyHead, hc, h]

theorem not_mem_lf_splitOn (text : List Char) : ∀ line ∈ text.splitOn '\n', '\n' ∉ line := by
  intro line hline
  rw [← piecesAt_eq_splitOn] at hline
  exact not_mem_of_mem_piecesAt hline

/-- The first line starts the text. -/
theorem head?_intercalate (line : List Char) (lines : List (List Char)) (hc : c ≠ '\n') :
    (['\n'].intercalate (line :: lines)).head? = some c ↔ line.head? = some c := by
  cases lines with
  | nil => rw [List.intercalate_singleton]
  | cons second lines =>
    rw [List.intercalate_cons_cons]
    cases line with
    | nil => simp [Ne.symm hc]
    | cons first line => rfl

/-! ## Pieces up to carriage returns -/

/-- The piece is the line, maybe with the carriage return of its end. -/
def Ended (line piece : List Char) : Prop := piece = line ∨ piece = line ++ ['\r']

theorem Ended.cons (c : Char) (h : Ended line piece) : Ended (c :: line) (c :: piece) := by
  rcases h with rfl | rfl
  · exact .inl rfl
  · exact .inr rfl

theorem Ended.trim_eq (h : Ended line piece) : trim line = trim piece := by
  rcases h with rfl | rfl
  · rfl
  · refine (trim_append line ?_).symm
    intro c hc
    rw [List.mem_singleton.1 hc]
    rfl

/-- The records of a text are its pieces without carriage returns at their ends, but an empty piece
at the end of the text is no record. -/
theorem forall₂_records (text : List Char) :
    ∃ tail, (tail = [] ∨ tail = [[]]) ∧
      List.Forall₂ Ended (records text ++ tail) (text.splitOn '\n') := by
  fun_induction records text with
  | case1 => exact ⟨[[]], .inr rfl, .cons (.inl rfl) .nil⟩
  | case2 rest ih =>
    obtain ⟨tail, htail, h⟩ := ih
    rw [splitOn_lf]
    exact ⟨tail, htail, .cons (.inl rfl) h⟩
  | case3 rest ih =>
    obtain ⟨tail, htail, h⟩ := ih
    rw [splitOn_char (by decide) (splitOn_lf rest)]
    exact ⟨tail, htail, .cons (.inr rfl) h⟩
  | case4 c rest hlf hcrlf hrest ih =>
    -- Nothing is left for the piece of `c` but the empty piece at the end.
    obtain ⟨tail, htail, h⟩ := ih
    rw [hrest, List.nil_append] at h
    rcases htail with rfl | rfl
    · exact absurd (List.forall₂_nil_left_iff.1 h) (List.splitOn_ne_nil _ _)
    · obtain ⟨piece, pieces, hpiece, hpieces, heq⟩ := List.forall₂_cons_left_iff.1 h
      rw [splitOn_char hlf heq, List.forall₂_nil_left_iff.1 hpieces]
      exact ⟨[], .inl rfl, .cons (hpiece.cons c) .nil⟩
  | case5 c rest hlf hcrlf line more hrest ih =>
    obtain ⟨tail, htail, h⟩ := ih
    rw [hrest, List.cons_append] at h
    obtain ⟨piece, pieces, hpiece, hpieces, heq⟩ := List.forall₂_cons_left_iff.1 h
    rw [splitOn_char hlf heq]
    exact ⟨tail, htail, .cons (hpiece.cons c) hpieces⟩

/-- With pairs for line feeds, all pieces but the last one end in a carriage return. -/
theorem forall₂_replaceWith (text : List Char) :
    List.Forall₂ Ended (text.splitOn '\n')
      ((replaceWith '\n' ['\r', '\n'] text).splitOn '\n') := by
  induction text with
  | nil => exact .cons (.inl rfl) .nil
  | cons c text ih =>
    by_cases hc : c = '\n'
    · subst hc
      have hreplace : replaceWith '\n' ['\r', '\n'] ('\n' :: text) =
          '\r' :: '\n' :: replaceWith '\n' ['\r', '\n'] text := rfl
      rw [hreplace, splitOn_lf, splitOn_char (by decide) (splitOn_lf _)]
      exact .cons (.inr rfl) ih
    · have hreplace : replaceWith '\n' ['\r', '\n'] (c :: text) =
          c :: replaceWith '\n' ['\r', '\n'] text := by
        simp [replaceWith, hc]
      obtain ⟨piece, pieces, hpieces⟩ :=
        List.exists_cons_of_ne_nil (List.splitOn_ne_nil '\n' text)
      rw [hpieces] at ih
      obtain ⟨other, others, hpiece, hothers, heq⟩ := List.forall₂_cons_left_iff.1 ih
      rw [hreplace, splitOn_char hc hpieces, splitOn_char hc heq]
      exact .cons (hpiece.cons c) hothers

end StyleCheck.Text
