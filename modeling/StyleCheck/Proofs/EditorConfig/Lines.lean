import StyleCheck.Proofs.EditorConfig.LineGrammar
import StyleCheck.Proofs.Text.Records

/-!
# The lines of a file

A file is read line by line, and its lines are the pieces between its line feeds (`parse_eq`): what
its records lack of these pieces, reading does not see. A carriage return at the end of a piece is
trimmed away, and an empty piece at the end of the text says nothing.

Going through the lines either meets a malformed one, and then the first of them is reported
(`addLines_eq_error_iff`), or adds what every line says to the contents, one after the other
(`addLines_eq_ok_iff`).
-/

namespace StyleCheck.EditorConfig.Contents

variable {contents result : Contents} {number : Nat} {line : List Char} {error : LineError}
  {lines others : List (List Char)}

/-! ## Lines that are read alike -/

theorem addLines_cons_ok {said : Line} (h : Says line said) :
    addLines contents number (line :: lines) =
      addLines (contents.add said) (number + 1) lines := by
  rw [addLines, h.read_eq]

theorem addLines_cons_error {fault : LineFault} (h : IsMalformed line fault) :
    addLines contents number (line :: lines) = .error ⟨number, fault⟩ := by
  rw [addLines, h.read_eq]

theorem addLines_congr (h : List.Forall₂ (fun line other => Text.trim line = Text.trim other)
    lines others) : addLines contents number lines = addLines contents number others := by
  induction h generalizing contents number with
  | nil => rfl
  | @cons line other lines others hline _ ih =>
    simp only [addLines, read_congr hline, ih]

theorem addLines_append_nil :
    addLines contents number (lines ++ [[]]) = addLines contents number lines := by
  induction lines generalizing contents number with
  | nil => rfl
  | cons line lines ih => simp only [List.cons_append, addLines, ih]

/-! ## The lines of a text -/

/-- The lines of a file: what stands between the line feeds of its text, a byte order mark at the
start left out. -/
def linesOf (text : List Char) : List (List Char) := (withoutMark text).splitOn '\n'

/-- **The lines of a file** are the pieces between its line feeds. -/
theorem parse_eq (text : List Char) : parse text = addLines {} 1 (linesOf text) := by
  obtain ⟨tail, htail, h⟩ := Text.forall₂_records (withoutMark text)
  have hblank : addLines {} 1 (Text.records (withoutMark text) ++ tail) = parse text := by
    rcases htail with rfl | rfl
    · rw [List.append_nil]
      rfl
    · rw [addLines_append_nil]
      rfl
  rw [← hblank]
  exact addLines_congr (h.imp fun _ _ => Text.Ended.trim_eq)

/-! ## Going through the lines -/

/-- Lines that all say something add what they say, and no other lines can be read to the end. -/
theorem addLines_eq_ok_iff :
    addLines contents number lines = .ok result ↔
      ∃ said, List.Forall₂ Says lines said ∧ said.foldl add contents = result := by
  induction lines generalizing contents number with
  | nil => simp [addLines]
  | cons line lines ih =>
    rcases says_or_isMalformed line with ⟨said, hsaid⟩ | ⟨fault, hfault⟩
    · rw [addLines_cons_ok hsaid, ih]
      constructor
      · intro h
        obtain ⟨more, hmore, heq⟩ := h
        exact ⟨said :: more, .cons hsaid hmore, heq⟩
      · -- A line says one thing only, so the other lines say the rest of the list.
        intro h
        obtain ⟨all, hall, heq⟩ := h
        obtain ⟨first, more, hfirst, hmore, rfl⟩ := List.forall₂_cons_left_iff.1 hall
        rw [hsaid.unique hfirst]
        exact ⟨more, hmore, heq⟩
    · rw [addLines_cons_error hfault]
      constructor
      · intro h
        cases h
      · intro h
        obtain ⟨all, hall, -⟩ := h
        obtain ⟨first, more, hfirst, -⟩ := List.forall₂_cons_left_iff.1 hall
        exact absurd hfault (hfirst.not_isMalformed fault)

theorem not_isMalformed_of_mem {said : List Line} (h : List.Forall₂ Says lines said)
    (hline : line ∈ lines) (fault : LineFault) : ¬ IsMalformed line fault := by
  induction h with
  | nil => cases hline
  | cons hfirst _ ih =>
    rcases List.mem_cons.1 hline with rfl | hline
    · exact hfirst.not_isMalformed fault
    · exact ih hline

/-- **The first malformed line is reported.** -/
theorem addLines_eq_error_iff :
    addLines contents number lines = .error error ↔
      ∃ before line after, lines = before ++ line :: after ∧
        error.line = before.length + number ∧ IsMalformed line error.fault ∧
        ∀ earlier ∈ before, ∀ fault, ¬ IsMalformed earlier fault := by
  induction lines generalizing contents number with
  | nil => simp [addLines]
  | cons line lines ih =>
    rcases says_or_isMalformed line with ⟨said, hsaid⟩ | ⟨fault, hfault⟩
    · rw [addLines_cons_ok hsaid, ih]
      constructor
      · intro h
        obtain ⟨before, first, after, rfl, hnumber, hfirst, hbefore⟩ := h
        refine ⟨line :: before, first, after, rfl, ?_, hfirst, ?_⟩
        · rw [hnumber, List.length_cons]
          omega
        · exact List.forall_mem_cons.2 ⟨hsaid.not_isMalformed, hbefore⟩
      · intro h
        obtain ⟨before, first, after, heq, hnumber, hfirst, hbefore⟩ := h
        -- The first malformed line is not this one, which says something.
        cases before with
        | nil =>
          cases heq
          exact absurd hfirst (hsaid.not_isMalformed _)
        | cons earlier before =>
          cases heq
          refine ⟨before, first, after, rfl, ?_, hfirst, (List.forall_mem_cons.1 hbefore).2⟩
          rw [hnumber, List.length_cons]
          omega
    · rw [addLines_cons_error hfault]
      constructor
      · intro h
        cases h
        exact ⟨[], line, lines, rfl, (Nat.zero_add number).symm, hfault, by simp⟩
      · intro h
        obtain ⟨before, first, after, heq, hnumber, hfirst, hbefore⟩ := h
        cases before with
        | nil =>
          cases heq
          have hnumber : error.line = number := hnumber.trans (Nat.zero_add number)
          rw [hfault.unique hfirst, ← hnumber]
        | cons earlier before =>
          cases heq
          exact absurd hfault (hbefore _ List.mem_cons_self fault)

/-- Nothing else is wrong with a file. -/
theorem exists_addLines_eq_error_iff :
    (∃ error, addLines contents number lines = .error error) ↔
      ∃ line ∈ lines, ∃ fault, IsMalformed line fault := by
  constructor
  · intro h
    obtain ⟨error, herror⟩ := h
    obtain ⟨before, line, after, rfl, -, hline, -⟩ := addLines_eq_error_iff.1 herror
    exact ⟨line, by simp, error.fault, hline⟩
  · intro h
    obtain ⟨line, hline, fault, hfault⟩ := h
    cases hresult : addLines contents number lines with
    | error error => exact ⟨error, rfl⟩
    | ok result =>
      obtain ⟨said, hsaid, -⟩ := addLines_eq_ok_iff.1 hresult
      exact absurd hfault (not_isMalformed_of_mem hsaid hline fault)

end StyleCheck.EditorConfig.Contents
