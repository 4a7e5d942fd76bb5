import StyleCheck.Proofs.Text.Lines
import StyleCheck.Proofs.Text.Split
import StyleCheck.Validation.Rule

/-!
# The rules on the ends of lines

The rules for the content as a whole count characters and look at the end of the text, but what
they say depends on the ends of its lines only: the numbers that the rule for line ends compares
are numbers of lines with the three ends (`count_feeds`, `count_returns`, `pairs_eq`), and what the
text ends with is the end of its last line (`endsWith_eq`, `endsInNewline_eq`).

**Theorem (`lineEnding_eq_none_iff`).** The rule for line ends is kept exactly if all lines that are
ended have the declared end.

**Theorem (`finalNewline_eq_none_iff`).** The rule for the final newline is kept exactly if the last
line has the declared end, or any end or none, as is wanted.
-/

namespace StyleCheck.Validation

open Text (endings)

variable {c : Char} {content rest : List Char} {ending : EndOfLine}

/-! ## Counts -/

theorem count_feeds (content : List Char) :
    content.count '\n' =
      (endings content).count (some .lf) + (endings content).count (some .crlf) := by
  induction content using Text.lineInduction with
  | nil => rfl
  | lf rest ih => simp [ih]; omega
  | crlf rest ih => simp [ih]; omega
  | cr rest hrest ih => simp [Text.endings_cr hrest, ih]
  | one c hc => simp [Text.endings_one hc, hc.1]
  | char c rest hc hrest ih => simp [Text.endings_char hc hrest, hc.1, ih]

theorem count_returns (content : List Char) :
    content.count '\r' =
      (endings content).count (some .cr) + (endings content).count (some .crlf) := by
  induction content using Text.lineInduction with
  | nil => rfl
  | lf rest ih => simp [ih]
  | crlf rest ih => simp [ih]; omega
  | cr rest hrest ih => simp [Text.endings_cr hrest, ih]; omega
  | one c hc => simp [Text.endings_one hc, hc.2]
  | char c rest hc hrest ih => simp [Text.endings_char hc hrest, hc.2, ih]

theorem pairs_cons (h : c = '\r' → rest.head? ≠ some '\n') :
    Rule.pairs (c :: rest) = Rule.pairs rest := by
  rw [Rule.pairs]
  rintro _ rfl rfl
  exact h rfl rfl

theorem pairs_eq (content : List Char) :
    Rule.pairs content = (endings content).count (some .crlf) := by
  induction content using Text.lineInduction with
  | nil => rfl
  | lf rest ih =>
    have hne : '\n' ≠ '\r' := by decide
    rw [pairs_cons fun heq => absurd heq hne, ih]
    rfl
  | crlf rest ih => simp [Rule.pairs, ih]
  | cr rest hrest ih => rw [pairs_cons fun _ => hrest, ih, Text.endings_cr hrest]; rfl
  | one c hc => rw [pairs_cons fun heq => absurd heq hc.2, Text.endings_one hc]; rfl
  | char c rest hc hrest ih =>
    rw [pairs_cons fun heq => absurd heq hc.2, ih, Text.endings_char hc hrest]

/-! ## The end of the text -/

/-- The end of the last line, if it has one. -/
def finalEnding (content : List Char) : Option EndOfLine := (endings content).getLast?.join

theorem finalEnding_cons {end? : Option EndOfLine} (hrest : rest ≠ [])
    (h : endings content = end? :: endings rest) : finalEnding content = finalEnding rest := by
  have hendings : endings rest ≠ [] := mt Text.endings_eq_nil_iff.1 hrest
  rw [finalEnding, finalEnding, h, List.getLast?_cons_of_ne_nil hendings]

theorem endsInNewline_cons (h : rest ≠ []) :
    Rule.endsInNewline (c :: rest) = Rule.endsInNewline rest := by
  rw [Rule.endsInNewline, Rule.endsInNewline, List.getLast?_cons_of_ne_nil h]

theorem endsInNewline_eq (content : List Char) :
    Rule.endsInNewline content = (finalEnding content).isSome := by
  induction content using Text.lineInduction with
  | nil => rfl
  | lf rest ih =>
    by_cases hrest : rest = []
    · rw [hrest]; rfl
    · rw [endsInNewline_cons hrest, ih, finalEnding_cons hrest Text.endings_lf]
  | crlf rest ih =>
    rw [endsInNewline_cons (List.cons_ne_nil _ _)]
    by_cases hrest : rest = []
    · rw [hrest]; rfl
    · rw [endsInNewline_cons hrest, ih, finalEnding_cons hrest Text.endings_crlf]
  | cr rest hnext ih =>
    by_cases hrest : rest = []
    · rw [hrest]; rfl
    · rw [endsInNewline_cons hrest, ih, finalEnding_cons hrest (Text.endings_cr hnext)]
  | one c hc =>
    rw [finalEnding, Text.endings_one hc]
    simp [Rule.endsInNewline, hc]
  | char c rest hc hrest ih =>
    rw [endsInNewline_cons hrest, ih, finalEnding, finalEnding, Text.endings_char hc hrest]

theorem isSome_dropWordAtEnd? (word text : List Char) :
    (Text.dropWordAtEnd? word text).isSome = true ↔ word <:+ text := by
  rw [Text.dropWordAtEnd?, Option.isSome_map, Option.isSome_iff_exists]
  simp only [Text.dropWord?_eq_some_iff]
  rw [← List.reverse_prefix]
  exact exists_congr fun _ => eq_comm

theorem suffix_cons_iff (word : List Char) (h : word ≠ c :: rest) :
    word <:+ c :: rest ↔ word <:+ rest := by
  rw [List.suffix_cons_iff]
  exact or_iff_right h

/-- A text ends as the text behind its first character does, unless that belongs to the end. -/
theorem endsWith_cons (hrest : rest ≠ []) (h : c :: rest ≠ ['\r', '\n']) :
    Rule.endsWith (c :: rest) ending = Rule.endsWith rest ending := by
  have hsuffix : ∀ end' : EndOfLine, (Text.dropWordAtEnd? end'.sequence (c :: rest)).isSome =
      (Text.dropWordAtEnd? end'.sequence rest).isSome := by
    intro end'
    have hne : end'.sequence ≠ c :: rest := by
      cases end' with
      | lf => intro heq; exact hrest (List.cons.inj heq).2.symm
      | cr => intro heq; exact hrest (List.cons.inj heq).2.symm
      | crlf => exact h.symm
    rw [Bool.eq_iff_iff, isSome_dropWordAtEnd?, isSome_dropWordAtEnd?, suffix_cons_iff _ hne]
  rw [Rule.endsWith, Rule.endsWith, hsuffix, hsuffix]

theorem endsWith_eq (content : List Char) (ending : EndOfLine) :
    Rule.endsWith content ending = (finalEnding content == some ending) := by
  induction content using Text.lineInduction with
  | nil => cases ending <;> rfl
  | lf rest ih =>
    by_cases hrest : rest = []
    · rw [hrest]; cases ending <;> rfl
    · rw [endsWith_cons hrest (by simp), ih, finalEnding_cons hrest Text.endings_lf]
  | crlf rest ih =>
    by_cases hrest : rest = []
    · rw [hrest]; cases ending <;> rfl
    · rw [endsWith_cons (List.cons_ne_nil _ _) (by simpa using hrest),
        endsWith_cons hrest (by simp), ih, finalEnding_cons hrest Text.endings_crlf]
  | cr rest hnext ih =>
    by_cases hrest : rest = []
    · rw [hrest]; cases ending <;> rfl
    · -- A carriage return before a line feed would be one end with it; none follows here.
      have hpair : '\r' :: rest ≠ ['\r', '\n'] := by
        rintro ⟨⟩
        exact hnext rfl
      rw [endsWith_cons hrest hpair, ih, finalEnding_cons hrest (Text.endings_cr hnext)]
  | one c hc =>
    have hlf : '\n' ≠ c := hc.1.symm
    have hcr : '\r' ≠ c := hc.2.symm
    rw [finalEnding, Text.endings_one hc]
    cases ending <;>
      simp [Rule.endsWith, Text.dropWordAtEnd?, Text.dropWord?, EndOfLine.sequence, hlf, hcr]
  | char c rest hc hrest ih =>
    rw [endsWith_cons hrest (fun heq => hc.2 (List.cons.inj heq).1), ih, finalEnding, finalEnding,
      Text.endings_char hc hrest]

/-! ## The rules -/

/-- **The rule for line ends sees the ends of the lines only.** -/
theorem lineEnding_congr {other : List Char} (h : endings other = endings content)
    (ending : Option EndOfLine) : Rule.lineEnding other ending = Rule.lineEnding content ending := by
  simp only [Rule.lineEnding, count_feeds, count_returns, pairs_eq, h]

/-- **The rule for the final newline sees the ends of the lines only.** -/
theorem finalNewline_congr {other : List Char} (h : endings other = endings content)
    (wanted : Option Bool) (ending : Option EndOfLine) :
    Rule.finalNewline other wanted ending = Rule.finalNewline content wanted ending := by
  have hfinal : finalEnding other = finalEnding content := by
    rw [finalEnding, h, finalEnding]
  unfold Rule.finalNewline
  simp only [endsWith_eq, endsInNewline_eq, hfinal]

theorem sequence_inj {other : EndOfLine} : other.sequence = ending.sequence ↔ other = ending := by
  cases other <;> cases ending <;> decide

theorem forall_ending_iff {p : EndOfLine → Prop} :
    (∀ ending, p ending) ↔ p .lf ∧ p .cr ∧ p .crlf := by
  constructor
  · intro h
    exact ⟨h .lf, h .cr, h .crlf⟩
  · rintro ⟨hlf, hcr, hcrlf⟩ ending
    cases ending with
    | lf => exact hlf
    | cr => exact hcr
    | crlf => exact hcrlf

/-- The counts are as they should be if they count no line with another end. -/
theorem lineEnding_eq_none_iff_count (content : List Char) (ending : EndOfLine) :
    Rule.lineEnding content (some ending) = none ↔
      ∀ other, other ≠ ending → (endings content).count (some other) = 0 := by
  rw [forall_ending_iff]
  cases ending with
  | lf => simp [Rule.lineEnding, count_returns, pairs_eq]
  | cr => simp [Rule.lineEnding, count_feeds, pairs_eq]
  | crlf =>
    simp [Rule.lineEnding, count_feeds, count_returns, pairs_eq]
    omega

/-- **The rule for line ends is kept** exactly if all lines that are ended have the declared end. -/
theorem lineEnding_eq_none_iff (content : List Char) (ending : EndOfLine) :
    Rule.lineEnding content (some ending) = none ↔
      ∀ terminator, some terminator ∈ endings content →
        terminator.sequence = ending.sequence := by
  rw [lineEnding_eq_none_iff_count]
  refine forall_congr' fun terminator => ?_
  rw [sequence_inj, List.count_eq_zero]
  exact Decidable.not_imp_not

/-- As many line feeds as carriage returns make no pairs in the wrong order. -/
example : Rule.lineEnding ['\n', '\r'] (some .crlf) = some .mixedLineEndings := by decide

/-- **The rule for the final newline is kept** exactly if the last line ends as wanted: with the
declared end, with any if none is declared, or with none. -/
theorem finalNewline_eq_none_iff (content : List Char) (wanted : Option Bool)
    (declared : Option EndOfLine) :
    Rule.finalNewline content wanted declared = none ↔
      wanted = none ∨
      (wanted = some false ∧ finalEnding content = none) ∨
      (wanted = some true ∧ ∃ ending ∈ declared,
        (finalEnding content).map EndOfLine.sequence = some ending.sequence) ∨
      (wanted = some true ∧ declared = none ∧ finalEnding content ≠ none) := by
  have hsequence : ∀ ending : EndOfLine,
      (finalEnding content).map EndOfLine.sequence = some ending.sequence ↔
        finalEnding content = some ending := by
    intro ending
    cases finalEnding content with
    | none => simp
    | some terminator => simp [sequence_inj]
  simp only [hsequence]
  rcases wanted with _ | _ | _
  · simp [Rule.finalNewline]
  · simp [Rule.finalNewline, endsInNewline_eq]
  · cases declared with
    | none => simp [Rule.finalNewline, endsInNewline_eq, Option.isSome_iff_ne_none]
    | some ending => simp [Rule.finalNewline, endsWith_eq]

end StyleCheck.Validation
