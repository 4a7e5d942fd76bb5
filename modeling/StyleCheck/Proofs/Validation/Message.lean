import StyleCheck.Proofs.Text.Numeral
import StyleCheck.Proofs.Validation.Consolidation
import StyleCheck.Proofs.Validation.Content

/-!
# Messages

What the texts of violations tell. The first eight characters of a message tell its check
(`check_of_message_eq`), and no message holds a colon (`colon_not_mem_message`), so a message can be
found behind the last colon of a longer text.

A check reports a line at most once, so no message occurs twice on a line of a content
(`nodup_covered_contentFindings`).
-/

namespace StyleCheck

namespace Violation

/-- The checks by the first characters of their messages. -/
def openings : List (List Char × Check) := [
  ("wrong in".toList, .indentStyle),
  ("wrong am".toList, .indentSize),
  ("trailing".toList, .trimTrailingWhitespace),
  ("wrong li".toList, .insertFinalNewline),
  ("no final".toList, .insertFinalNewline),
  ("final ne".toList, .insertFinalNewline),
  ("not all ".toList, .endOfLine),
  ("line too".toList, .maxLineLength)]

theorem take_message (text rest : String) (h : 8 ≤ text.toList.length) :
    (text ++ rest).toList.take 8 = text.toList.take 8 := by
  rw [String.toList_append, List.take_append_of_le_length h]

theorem lookup_message (violation : Violation) :
    openings.lookup (violation.message.toList.take 8) = some violation.check := by
  cases violation with
  | indentSize size =>
    have hmessage : (indentSize size).message =
        "wrong amount of left-padding spaces (want multiple of " ++ (toString size ++ ")") :=
      String.append_assoc ..
    rw [hmessage, take_message _ _ (by decide)]
    rfl
  | lineTooLong length max =>
    have hmessage : (lineTooLong length max).message =
        "line too long (" ++ (toString length ++ (" instead of " ++ (toString max ++ ")"))) := by
      show "line too long (" ++ toString length ++ " instead of " ++ toString max ++ ")" = _
      simp only [String.append_assoc]
    rw [hmessage, take_message _ _ (by decide)]
    rfl
  | _ => decide

/-- **A message tells its check.** -/
theorem check_of_message_eq {a b : Violation} (h : a.message = b.message) : a.check = b.check := by
  have hlookup := lookup_message a
  rw [h, lookup_message b] at hlookup
  exact (Option.some.inj hlookup).symm

theorem colon_not_mem_toString (n : Nat) : ':' ∉ (toString n).toList := by
  intro h
  exact absurd (Text.isDigit_of_mem_toString h) (by decide)

theorem colon_not_mem_message (violation : Violation) : ':' ∉ violation.message.toList := by
  cases violation with
  | indentSize size =>
    show ':' ∉ ("wrong amount of left-padding spaces (want multiple of " ++ toString size ++
      ")").toList
    simp only [String.toList_append, List.mem_append, colon_not_mem_toString, or_false, not_or]
    decide
  | lineTooLong length max =>
    show ':' ∉ ("line too long (" ++ toString length ++ " instead of " ++ toString max ++
      ")").toList
    simp only [String.toList_append, List.mem_append, colon_not_mem_toString, or_false, not_or]
    decide
  | _ => decide

end Violation

namespace Validation

variable {content : List Char} {settings : EditorSettings} {options : CheckOptions}
  {finding : Finding}

/-- Findings in order are on different lines or have different messages. -/
theorem ne_of_precedes {line line' : Option Nat} {violation violation' : Violation}
    (h : (Finding.ofViolation line violation).Precedes (.ofViolation line' violation')) :
    (line, violation.message) ≠ (line', violation'.message) := by
  intro heq
  obtain ⟨hline, hmessage⟩ := Prod.mk.inj heq
  rcases h with hlt | ⟨-, hlt⟩
  · rw [hline] at hlt
    exact Nat.lt_irrefl _ hlt
  · have hlt : violation.check.rank < violation'.check.rank := hlt
    rw [Violation.check_of_message_eq hmessage] at hlt
    exact Nat.lt_irrefl _ hlt

/-- **No message occurs twice on a line**, and none twice for the content as a whole. -/
theorem nodup_covered_contentFindings (content : List Char) (settings : EditorSettings)
    (options : CheckOptions) :
    ((contentFindings content settings options).flatMap Finding.covered).Nodup := by
  have hcovered : (contentFindings content settings options).flatMap Finding.covered =
      (contentFindings content settings options).map fun f => (f.line, f.message) := by
    rw [← List.flatMap_pure_eq_map]
    refine List.flatMap_congr fun finding h => ?_
    obtain ⟨line, violation, rfl⟩ := exists_of_mem_contentFindings h
    cases line <;> rfl
  rw [hcovered]
  refine List.pairwise_map.2 ((pairwise_contentFindings content settings options).imp_of_mem ?_)
  intro a b ha hb hab
  obtain ⟨line, violation, rfl⟩ := exists_of_mem_contentFindings ha
  obtain ⟨line', violation', rfl⟩ := exists_of_mem_contentFindings hb
  exact ne_of_precedes hab

end Validation

end StyleCheck
