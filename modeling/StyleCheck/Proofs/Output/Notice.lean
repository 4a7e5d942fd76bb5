import StyleCheck.Output.Entry
import StyleCheck.Proofs.Text.Numeral
import StyleCheck.Proofs.Text.Split
import Mathlib.Data.List.Forall2
import Mathlib.Tactic.FinCases

/-!
# Reading workflow commands back

A command is read as `::error file=F[,line=N[,endLine=M]]::message`, where the path ends at the
first comma or colon. The escapes in the path and in the message are undone from left to right.

**Theorem (`commands_read_back`).** The text of several reports has one line for each entry, in the
order of the entries, and each line is read back as the path, the lines and the message of its
entry.

Replacing one character after another goes through the text character by character, and is undone
there (`isEscaping_message`): the percent sign goes first, so the later replacements find nothing
in its escape. So undoing the escapes is an induction on the text. The escaped texts hold none of
the characters that end a part of the command (`all_escapedPath`), which is why a reader finds the
parts again.
-/

namespace StyleCheck.Output.Workflow

variable {c : Char} {text rest : List Char}

/-! ## The reader -/

/-- What a command says. Both lines are missing for an error of the whole file. -/
structure Notice where
  path : String
  firstLine : Option Nat
  lastLine : Option Nat
  message : String
  deriving DecidableEq, Repr

/-- What the command for an entry should say. -/
def Notice.ofEntry (entry : Entry) : Notice where
  path := entry.path
  firstLine := entry.finding.firstLine
  lastLine := entry.finding.lastLine
  message := entry.finding.message

/-- The text with its escapes undone, from left to right. -/
def unescaped : List Char → List Char
  | '%' :: '2' :: '5' :: rest => '%' :: unescaped rest
  | '%' :: '0' :: 'D' :: rest => '\r' :: unescaped rest
  | '%' :: '0' :: 'A' :: rest => '\n' :: unescaped rest
  | '%' :: '3' :: 'A' :: rest => ':' :: unescaped rest
  | '%' :: '2' :: 'C' :: rest => ',' :: unescaped rest
  | c :: rest => c :: unescaped rest
  | [] => []

/-- Whether the character belongs to the path of a command. -/
def isInPath (c : Char) : Bool := c != ',' && c != ':'

/-- Reads the lines of a command if it has any, and gives the rest of the text. -/
def place? (text : List Char) : Option (Option Nat × Option Nat × List Char) :=
  match Text.dropWord? ",line=".toList text with
  | none => some (none, none, text)
  | some text => do
    let (first, text) ← Text.number? text
    match Text.dropWord? ",endLine=".toList text with
    | none => pure (some first, some first, text)
    | some text => do
      let (last, text) ← Text.number? text
      pure (some first, some last, text)

/-- Reads a command. -/
def read? (line : List Char) : Option Notice := do
  let text ← Text.dropWord? "::error file=".toList line
  let (first, last, text') ← place? (text.dropWhile isInPath)
  let message ← Text.dropWord? "::".toList text'
  pure {
    path := String.ofList (unescaped (text.takeWhile isInPath))
    firstLine := first
    lastLine := last
    message := String.ofList (unescaped message) }

/-! ## Escapes -/

/-- The characters that are escaped somewhere. -/
def special : List Char := ['%', '\r', '\n', ':', ',']

theorem unescaped_plain (h : c ≠ '%') : unescaped (c :: rest) = c :: unescaped rest := by
  rw [unescaped]
  all_goals
    intros
    simp_all

/-- A way of writing texts that goes character by character, leaves those alone that are not
special, and is undone by a reader. -/
structure IsEscaping (write : List Char → List Char) : Prop where
  nil : write [] = []
  cons : ∀ c text, write (c :: text) = write [c] ++ write text
  plain : ∀ c, c ∉ special → write [c] = [c]
  undone : ∀ c ∈ special, ∀ rest, unescaped (write [c] ++ rest) = c :: unescaped rest

namespace IsEscaping

variable {write : List Char → List Char}

theorem unescaped_one (h : IsEscaping write) (c : Char) (rest : List Char) :
    unescaped (write [c] ++ rest) = c :: unescaped rest := by
  by_cases hc : c ∈ special
  · exact h.undone c hc rest
  · have hpercent : c ≠ '%' := fun heq => hc (heq ▸ List.mem_cons_self)
    rw [h.plain c hc]
    exact unescaped_plain hpercent

theorem unescaped_write (h : IsEscaping write) (text : List Char) :
    unescaped (write text) = text := by
  induction text with
  | nil => rw [h.nil, unescaped]
  | cons c text ih => rw [h.cons, h.unescaped_one, ih]

/-- What holds of the characters that are not special, and of what is written for those that are,
holds of what is written for a text. -/
theorem all_write (h : IsEscaping write) {p : Char → Bool} (hplain : ∀ c, c ∉ special → p c = true)
    (hspecial : (special.all fun x => (write [x]).all p) = true) (text : List Char) :
    (write text).all p = true := by
  induction text with
  | nil => rw [h.nil, List.all_nil]
  | cons x text ih =>
    rw [h.cons, List.all_append, ih, Bool.and_true]
    by_cases hx : x ∈ special
    · exact List.all_eq_true.1 hspecial x hx
    · rw [h.plain x hx, List.all_cons, List.all_nil, Bool.and_true]
      exact hplain x hx

end IsEscaping

theorem replaceWith_append (image first second : List Char) :
    Text.replaceWith c image (first ++ second) =
      Text.replaceWith c image first ++ Text.replaceWith c image second :=
  List.flatMap_append

/-- The percent sign is replaced first, so the later replacements find nothing in its escape. -/
theorem isEscaping_message : IsEscaping escapedMessage where
  nil := rfl
  cons c text := by
    simp only [escapedMessage, ← replaceWith_append, List.singleton_append]
  plain c hc := by
    simp only [special, List.mem_cons, List.not_mem_nil, or_false, not_or] at hc
    simp [escapedMessage, Text.replaceWith, hc]
  undone c hc rest := by
    fin_cases hc <;> rfl

theorem isEscaping_path : IsEscaping escapedPath where
  nil := rfl
  cons c text := by
    simp only [escapedPath, ← replaceWith_append, ← isEscaping_message.cons]
  plain c hc := by
    rw [escapedPath, isEscaping_message.plain c hc]
    simp only [special, List.mem_cons, List.not_mem_nil, or_false, not_or] at hc
    simp [Text.replaceWith, hc]
  undone c hc rest := by
    fin_cases hc <;> rfl

/-- Whether the character ends no line. -/
def isInLine (c : Char) : Bool := c != '\n' && c != '\r'

theorem all_escapedMessage (text : List Char) : (escapedMessage text).all isInLine = true :=
  isEscaping_message.all_write (fun c hc => by simp_all [special, isInLine]) (by decide) text

/-- Neither an end of line nor an end of the path is left in a path. -/
theorem all_escapedPath (text : List Char) :
    (escapedPath text).all (fun c => isInPath c && isInLine c) = true :=
  isEscaping_path.all_write (fun c hc => by simp_all [special, isInPath, isInLine]) (by decide) text

/-! ## Commands -/

/-- The place is read back, whatever message follows it. -/
theorem place?_place (finding : Finding) (message : List Char) :
    place? ((place finding).toList ++ ("::".toList ++ message)) =
      some (finding.firstLine, finding.lastLine, "::".toList ++ message) := by
  have hcolon : ∀ c ∈ ("::".toList ++ message).head?, c.isDigit = false := by simp
  cases hline : finding.line with
  | none =>
    have hplace : place finding = "" := by simp [place, Finding.firstLine, hline]
    simp [place?, hplace, Finding.firstLine, Finding.lastLine, hline, Text.dropWord?]
  | some line =>
    have hfirst : finding.firstLine = some (line + 1) := by simp [Finding.firstLine, hline]
    have hlast : finding.lastLine = some (line + 1 + finding.further) := by
      simp [Finding.lastLine, hline]
    by_cases hmore : line + 1 < line + 1 + finding.further
    · -- A last line is written only behind the first one; without it the two are the same.
      have hplace : (place finding).toList = ",line=".toList ++ ((toString (line + 1)).toList ++
          (",endLine=".toList ++ (toString (line + 1 + finding.further)).toList)) := by
        simp only [place, hfirst, hlast, if_pos hmore, String.toList_append, List.append_assoc]
      have hcomma : ∀ c ∈ (",endLine=".toList ++ ((toString (line + 1 + finding.further)).toList ++
          ("::".toList ++ message))).head?, c.isDigit = false := by simp
      simp only [place?, hplace, List.append_assoc, Text.dropWord?_append,
        Text.number?_append _ _ hcomma, Text.number?_append _ _ hcolon, hfirst, hlast,
        Option.bind_eq_bind, Option.bind_some, Option.pure_def]
    · have hplace : (place finding).toList =
          ",line=".toList ++ (toString (line + 1)).toList := by
        simp only [place, hfirst, hlast, if_neg hmore, String.toList_append, String.toList_empty,
          List.append_nil]
      have hend : Text.dropWord? ",endLine=".toList ("::".toList ++ message) = none := rfl
      have hsame : line + 1 + finding.further = line + 1 := by omega
      simp only [place?, hplace, List.append_assoc, Text.dropWord?_append,
        Text.number?_append _ _ hcolon, hend, hfirst, hlast, hsame, Option.bind_eq_bind,
        Option.bind_some, Option.pure_def]

theorem toList_command (entry : Entry) :
    (command entry).toList = "::error file=".toList ++ (escapedPath entry.path.toList ++
      ((place entry.finding).toList ++
        ("::".toList ++ escapedMessage entry.finding.message.toList))) := by
  show ("::error file=" ++ String.ofList (escapedPath entry.path.toList) ++ place entry.finding ++
    "::" ++ String.ofList (escapedMessage entry.finding.message.toList)).toList = _
  simp only [String.toList_append, String.toList_ofList, List.append_assoc]

theorem head?_place (finding : Finding) (message : List Char) :
    ∀ c ∈ ((place finding).toList ++ ("::".toList ++ message)).head?, isInPath c = false := by
  unfold place
  split <;> simp [isInPath]

/-- **A command is read back.** -/
theorem read?_command (entry : Entry) :
    read? (command entry).toList = some (Notice.ofEntry entry) := by
  have hpath : ∀ c ∈ escapedPath entry.path.toList, isInPath c = true := fun c hc =>
    (Bool.and_eq_true_iff.1 (List.all_eq_true.1 (all_escapedPath _) c hc)).1
  obtain ⟨htake, hdrop⟩ := Text.span_append hpath
    (head?_place entry.finding (escapedMessage entry.finding.message.toList))
  rw [toList_command, read?, Text.dropWord?_append]
  simp only [Option.bind_eq_bind, Option.bind_some, Option.pure_def, htake, hdrop, place?_place,
    Text.dropWord?_append, isEscaping_path.unescaped_write, isEscaping_message.unescaped_write,
    String.ofList_toList]
  rfl

theorem all_toString (n : Nat) : (toString n).toList.all isInLine = true := by
  refine List.all_eq_true.2 fun c hc => ?_
  have hdigit := Text.isDigit_of_mem_toString hc
  rw [isInLine, Bool.and_eq_true, bne_iff_ne, bne_iff_ne]
  constructor <;>
  · rintro rfl
    cases hdigit

theorem all_place (finding : Finding) : (place finding).toList.all isInLine = true := by
  have hline : ",line=".toList.all isInLine = true := by decide
  have hendLine : ",endLine=".toList.all isInLine = true := by decide
  unfold place
  split
  · split <;>
      simp only [String.toList_append, List.all_append, all_toString, hline, hendLine,
        String.toList_empty, List.all_nil, Bool.and_self]
  · rfl

theorem all_command (entry : Entry) : (command entry).toList.all isInLine = true := by
  have hstart : "::error file=".toList.all isInLine = true := by decide
  have hcolons : "::".toList.all isInLine = true := by decide
  have hpath : (escapedPath entry.path.toList).all isInLine = true :=
    List.all_eq_true.2 fun c hc =>
      (Bool.and_eq_true_iff.1 (List.all_eq_true.1 (all_escapedPath _) c hc)).2
  simp only [toList_command, List.all_append, hstart, hpath, all_place, hcolons,
    all_escapedMessage, Bool.and_self]

theorem not_mem_command (entry : Entry) :
    '\n' ∉ (command entry).toList ∧ '\r' ∉ (command entry).toList := by
  have hall := List.all_eq_true.1 (all_command entry)
  constructor <;>
  · intro hmem
    exact absurd (hall _ hmem) (by decide)

/-! ## The text of several reports -/

theorem piecesAt_lines {texts : List String} (h : ∀ text ∈ texts, '\n' ∉ text.toList) :
    Text.piecesAt '\n' (lines texts).toList = texts.map String.toList ++ [[]] := by
  induction texts with
  | nil => rfl
  | cons text texts ih =>
    obtain ⟨htext, htexts⟩ := List.forall_mem_cons.1 h
    have hlines : (lines (text :: texts)).toList = text.toList ++ '\n' :: (lines texts).toList := by
      simp [lines]
    rw [hlines, Text.piecesAt_append_cons htext, ih htexts]
    rfl

theorem pieces_render (reports : List Report) :
    Text.piecesAt '\n' (render reports).toList =
      (entries reports).map (fun entry => (command entry).toList) ++ [[]] := by
  have hlines : ∀ text ∈ (entries reports).map command, '\n' ∉ text.toList := by
    intro text htext
    obtain ⟨entry, -, rfl⟩ := List.mem_map.1 htext
    exact (not_mem_command entry).1
  rw [render, piecesAt_lines hlines, List.map_map]
  rfl

/-- **The commands for several reports are read back**, one line for each entry. -/
theorem commands_read_back (reports : List Report) :
    ∃ commands : List (List Char),
      Text.piecesAt '\n' (render reports).toList = commands ++ [[]] ∧
      (∀ command ∈ commands, '\r' ∉ command) ∧
      List.Forall₂ (fun command entry => read? command = some (Notice.ofEntry entry))
        commands (entries reports) := by
  refine ⟨_, pieces_render reports, ?_, ?_⟩
  · intro text htext
    obtain ⟨entry, -, rfl⟩ := List.mem_map.1 htext
    exact (not_mem_command entry).2
  · rw [List.forall₂_map_left_iff, List.forall₂_same]
    intro entry _
    exact read?_command entry

end StyleCheck.Output.Workflow
