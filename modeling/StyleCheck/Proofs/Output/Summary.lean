import StyleCheck.Output.Format
import StyleCheck.Proofs.Text.Numeral
import Mathlib.Data.List.Forall2

/-!
# Reading the summary

**Theorem (`exists_render`).** The summary has a block of lines for every file with errors: the path
of the file, a line for each of its entries, and a blank line. Its last line is read back as the
number of files, the number of errors, and the number of blocks.

What a line says about an entry stands in front of the message (`ShowsEntry`), and is read there as
the lines that the entry covers. Colours are read over (`Style.plain`): in the last line only words
and numbers are painted, and these have no escape character of their own.
-/

namespace StyleCheck.Output

variable {colors : Bool} {text rest : List Char}

/-! ## Colours -/

namespace Style

/-- The text without what switches styles, from inside or outside such a sequence on. -/
def plainFrom (inside : Bool) : List Char → List Char
  | [] => []
  | c :: rest =>
    if inside then plainFrom (c != 'm') rest
    else if c = '\x1b' then plainFrom true rest
    else c :: plainFrom false rest

/-- The text without what switches styles. -/
def plain (text : List Char) : List Char := plainFrom false text

theorem plain_append (h : '\x1b' ∉ text) (rest : List Char) :
    plain (text ++ rest) = text ++ plain rest := by
  induction text with
  | nil => rfl
  | cons c text ih =>
    obtain ⟨hc, htext⟩ := not_or.1 (List.mem_cons.not.1 h)
    have hstep : plain (c :: (text ++ rest)) = c :: plain (text ++ rest) := if_neg (Ne.symm hc)
    rw [List.cons_append, hstep, ih htext, List.cons_append]

theorem plain_codes (styles : List Style) (rest : List Char) :
    plain ((String.join (styles.map code)).toList ++ rest) = plain rest := by
  induction styles with
  | nil => simp [String.join]
  | cons style styles ih =>
    have hjoin : (String.join ((style :: styles).map code)).toList ++ rest =
        style.code.toList ++ ((String.join (styles.map code)).toList ++ rest) := by
      simp [String.join_cons]
    rw [hjoin]
    cases style <;> exact ih

theorem plain_paint {word : String} (h : '\x1b' ∉ word.toList) (styles : List Style) :
    plain ((paint colors styles word).toList ++ rest) = word.toList ++ plain rest := by
  unfold paint
  split
  · have hreset : plain (reset.toList ++ rest) = plain rest := rfl
    simp only [String.toList_append, List.append_assoc, plain_codes, plain_append h, hreset]
  · exact plain_append h rest

end Style

namespace Summary

/-! ## The last line -/

/-- What the last line says. -/
structure Totals where
  files : Nat
  errors : Nat
  failed : Nat
  deriving DecidableEq, Repr

/-- Reads a number with a noun, and gives the rest of the text. -/
def counted? (noun : String) (text : List Char) : Option (Nat × List Char) := do
  let (n, text) ← Text.number? text
  let text ← Text.dropWord? (' ' :: noun.toList) text
  let text ← if n = 1 then some text else Text.dropWord? ['s'] text
  pure (n, text)

/-- Reads the last line. -/
def Totals.read? (line : List Char) : Option Totals := do
  let text ← Text.dropWord? "Summary: ".toList (Style.plain line)
  let (files, text) ← counted? "file" text
  let text ← Text.dropWord? " checked, ".toList text
  let (errors, text) ← counted? "error" text
  let text ← Text.dropWord? " in ".toList text
  let (failed, text) ← counted? "file" text
  if text.isEmpty then pure { files, errors, failed } else none

theorem counted?_counted (n : Nat) (noun : String) (rest : List Char) :
    counted? noun ((counted n noun).toList ++ rest) = some (n, rest) := by
  have hnumber : (counted n noun).toList ++ rest = (toString n).toList ++
      (' ' :: noun.toList ++ ((if n = 1 then [] else ['s']) ++ rest)) := by
    unfold counted
    split <;> simp
  rw [hnumber, counted?, Text.number?_append n _ (by simp)]
  simp only [Option.bind_eq_bind, Option.bind_some, Text.dropWord?_append]
  split <;> simp [Text.dropWord?]

theorem not_mem_counted (noun : String) (h : '\x1b' ∉ noun.toList) (n : Nat) :
    '\x1b' ∉ (counted n noun).toList := by
  have hnumber : '\x1b' ∉ (toString n).toList := fun hmem =>
    absurd (Text.isDigit_of_mem_toString hmem) (by decide)
  unfold counted
  simp only [String.toList_append, List.mem_append, not_or]
  refine ⟨⟨hnumber, by decide⟩, ?_⟩
  split <;> simp [h]

/-- **The last line is read back**, in colours or without. -/
theorem read?_totals (colors : Bool) (files errors failed : Nat) :
    Totals.read? (totals colors files errors failed).toList = some { files, errors, failed } := by
  have hfile := not_mem_counted "file" (by decide)
  have herror := not_mem_counted "error" (by decide)
  have hplain : Style.plain (totals colors files errors failed).toList =
      "Summary: ".toList ++ ((counted files "file").toList ++ (" checked, ".toList ++
        ((counted errors "error").toList ++ (" in ".toList ++
          ((counted failed "file").toList ++ []))))) := by
    rw [← List.append_nil (totals colors files errors failed).toList, totals]
    simp only [String.toList_append, List.append_assoc]
    rw [Style.plain_append (by decide), Style.plain_append (hfile _),
      Style.plain_append (by decide), Style.plain_paint (herror _), Style.plain_append (by decide),
      Style.plain_append (hfile _)]
    rfl
  rw [Totals.read?, hplain]
  simp only [Option.bind_eq_bind, Option.bind_some, Text.dropWord?_append, counted?_counted]
  rfl

/-! ## Entries -/

/-- Reads the first and the last line that an entry is about; the whole file has neither. -/
def place? (text : List Char) : Option (Option Nat × Option Nat) :=
  if text.isEmpty then some (none, none)
  else do
    let text ← Text.dropWord? "line ".toList text
    let (first, text) ← Text.number? text
    if text = ": ".toList then pure (some first, some first)
    else
      let text ← Text.dropWord? ['-'] text
      let (last, text) ← Text.number? text
      if text = ": ".toList then pure (some first, some last) else none

/-- The line shows the message of the entry, behind the lines that it is about. -/
def ShowsEntry (line : List Char) (entry : Entry) : Prop :=
  ∃ place, line = '\t' :: (place ++ entry.finding.message.toList) ∧
    place? place = some (entry.finding.firstLine, entry.finding.lastLine)

theorem isDigit_head?_colon : ∀ c ∈ ": ".toList.head?, c.isDigit = false := by
  rintro c ⟨⟩
  rfl

theorem place?_line (first : Nat) :
    place? ("line ".toList ++ ((toString first).toList ++ ": ".toList)) =
      some (some first, some first) := by
  have hread := Text.number?_append first _ isDigit_head?_colon
  rw [place?, if_neg (by simp), Text.dropWord?_append]
  simp only [Option.bind_eq_bind, Option.bind_some, hread]
  rfl

theorem place?_lines (first last : Nat) :
    place? ("line ".toList ++ ((toString first).toList ++ ('-' :: ((toString last).toList ++
      ": ".toList)))) = some (some first, some last) := by
  have hfirst := Text.number?_append first ('-' :: ((toString last).toList ++ ": ".toList))
    (by simp)
  have hlast := Text.number?_append last _ isDigit_head?_colon
  rw [place?, if_neg (by simp), Text.dropWord?_append]
  simp only [Option.bind_eq_bind, Option.bind_some, hfirst]
  rw [if_neg (by simp)]
  simp only [Text.dropWord?, beq_self_eq_true, if_true, Option.bind_some, hlast]
  rfl

/-- **The line for an entry is read back.** -/
theorem showsEntry_entryLine (entry : Entry) : ShowsEntry (entryLine entry).toList entry := by
  unfold ShowsEntry entryLine place Finding.firstLine Finding.lastLine
  cases entry.finding.line with
  | none => exact ⟨[], by simp, rfl⟩
  | some line =>
    simp only [Option.map_some]
    split
    · exact ⟨_, by simp, place?_lines (line + 1) (line + 1 + entry.finding.further)⟩
    next hsame =>
      have heq : line + 1 + entry.finding.further = line + 1 := by omega
      rw [heq]
      exact ⟨_, by simp, place?_line (line + 1)⟩

/-! ## Blocks -/

/-- The heading of a block: the path, in yellow if there are colours. -/
def heading (colors : Bool) (path : String) : String :=
  (if colors then "\x1b[33m" ++ path ++ "\x1b[0m" else path) ++ ":"

/-- The lines show the report: its path, its entries in their order, and a blank line. -/
def ShowsReport (colors : Bool) (block : List String) (report : Report) : Prop :=
  ∃ texts, block = heading colors report.path.display :: texts ++ [""] ∧
    List.Forall₂ (fun text entry => ShowsEntry text.toList entry) texts (entriesOf report)

theorem showsReport_lines (colors : Bool) (report : Report) :
    ShowsReport colors (Block.ofReport colors report).lines report := by
  refine ⟨(entriesOf report).map entryLine, ?_, ?_⟩
  · have hheading : Style.paint colors [.yellow] report.path.display ++ ":" =
        heading colors report.path.display := by
      cases colors <;> rfl
    rw [Block.lines, Block.ofReport, hheading]
    rfl
  · rw [List.forall₂_map_left_iff, List.forall₂_same]
    exact fun entry _ => showsEntry_entryLine entry

/-- **The summary shows the reports with errors and counts them.** -/
theorem exists_render (colors : Bool) (reports : List Report) :
    ∃ (blocks : List (List String)) (totals : String),
      render colors reports = String.join ((blocks.flatten ++ [totals]).map (· ++ "\n")) ∧
      List.Forall₂ (ShowsReport colors) blocks (failed reports) ∧
      Totals.read? totals.toList =
        some { files := reports.length, errors := errorCount reports, failed := blocks.length } := by
  refine ⟨(blocks colors reports).map Block.lines,
    totals colors reports.length (errorCount reports) (failed reports).length, ?_, ?_, ?_⟩
  · rw [render, List.flatMap_def]
    rfl
  · rw [blocks, List.map_map, List.forall₂_map_left_iff, List.forall₂_same]
    exact fun report _ => showsReport_lines colors report
  · rw [List.length_map, blocks, List.length_map]
    exact read?_totals colors _ _ _

end Summary

end StyleCheck.Output
