import StyleCheck.Proofs.Section.Compilation

/-!
# Ranges are judged in the preferred reading

A range of integers takes part in a match as any numeral, and its bounds are compared afterwards,
in one reading only: the preferred one (`Before`). So a header with ranges does not match all that
it stands for. In `*{10..15}` the star takes what it can and leaves the range the last digit, and of
the parts of a group only the first one that can be read is judged.

**Theorem (`isMatch_iff_preferred`).** A header whose opening brackets are all escaped gives a glob,
and the glob matches a path without line feeds exactly when the preferred reading of the path has
every range within its bounds. What it matches the header stands for, and where the readings of a
path agree about the bounds the converse holds too.
-/

namespace StyleCheck.Section

/-- **The glob of a header judges the preferred reading of a path.** -/
theorem isMatch_iff_preferred (header : List Char) (hbrackets : BracketsEscaped header) :
    ∃ glob, Glob.ofHeader? header = some glob ∧ ∀ path, '\n' ∉ path →
      (glob.isMatch path = true ↔
        ∃ way, Preferred (Reads (anchored header)) path way ∧ ∀ step ∈ way, step.Holds) ∧
      ((∃ way, Reads (anchored header) path way) →
        ∃ way, Preferred (Reads (anchored header)) path way ∧
          ∀ other, Preferred (Reads (anchored header)) path other → other = way) ∧
      (glob.isMatch path = true → Denotes (anchored header) path) ∧
      ((∀ way other, Reads (anchored header) path way → Reads (anchored header) path other →
          (∀ step ∈ way, step.Holds) → ∀ step ∈ other, step.Holds) →
        Denotes (anchored header) path → glob.isMatch path = true) := by
  obtain ⟨glob, hglob, hways⟩ := exists_glob header hbrackets
  refine ⟨glob, hglob, fun path hline => ?_⟩
  have hmatch := hways.isMatch_iff hline
  refine ⟨hmatch, ?_, fun h => ?_, fun hagree h => hmatch.2 ?_⟩
  · rintro ⟨way, hway⟩
    obtain ⟨first, hfirst⟩ := hways.exists_preferred hline hway
    exact ⟨first, hfirst, fun other hother => hother.unique hfirst⟩
  · obtain ⟨way, hway, hholds⟩ := hmatch.1 h
    exact hway.1.denotes hholds
  · obtain ⟨way, hway, hholds⟩ := h.exists_reads
    -- The preferred way holds, because some way holds and all agree.
    obtain ⟨first, hfirst⟩ := hways.exists_preferred hline hway
    exact ⟨first, hfirst, hagree way first hway hfirst.1 hholds⟩

theorem isMatch_iff_preferred_version :
    BracketsEscaped "v\x7b1..10\x7d".toList ∧
      ∃ glob, Glob.ofHeader? "v\x7b1..10\x7d".toList = some glob ∧ ∀ path, '\n' ∉ path →
        (glob.isMatch path = true ↔
          ∃ way, Preferred (Reads (anchored "v\x7b1..10\x7d".toList)) path way ∧
            ∀ step ∈ way, step.Holds) := by
  have hbrackets : BracketsEscaped "v\x7b1..10\x7d".toList := bracketsEscaped_of_not_mem (by decide)
  obtain ⟨glob, hglob, hpaths⟩ := isMatch_iff_preferred _ hbrackets
  exact ⟨hbrackets, glob, hglob, fun path hline => (hpaths path hline).1⟩

/-- A star takes a digit that the range behind it would need, and of two parts the first one is
judged. -/
theorem not_isMatch_behind_star :
    (BracketsEscaped "*\x7b10..15\x7d".toList ∧
      Denotes (anchored "*\x7b10..15\x7d".toList) "12".toList ∧
      (Glob.ofHeader? "*\x7b10..15\x7d".toList).map (fun glob => glob.isMatch "12".toList) =
        some false) ∧
    (Glob.ofHeader? "\x7b*,\x7b1..3\x7d\x7d".toList).map (fun glob => glob.isMatch "5".toList) =
      some true ∧
    (Glob.ofHeader? "\x7b\x7b1..3\x7d,*\x7d".toList).map (fun glob => glob.isMatch "5".toList) =
      some false := by
  have hfound : braceBody? 0 "10..15\x7d".toList = some ("10..15".toList, []) := by decide
  have hbody : Balanced "10..15".toList := (braceBody?_eq_some_iff.1 hfound).2
  have hrange : Denotes "\x7b10..15\x7d".toList ("12".toList ++ []) :=
    .range rfl hbody rfl rfl (by decide) (by decide) .nil
  have hstar : Denotes "*\x7b10..15\x7d".toList ([] ++ "12".toList) :=
    .star (by decide) (by decide) hrange
  have hanchored : Denotes (anchored "*\x7b10..15\x7d".toList) "12".toList :=
    .directories (.inl rfl) hstar
  exact ⟨⟨bracketsEscaped_of_not_mem (by decide), hanchored, by decide +kernel⟩,
    by decide +kernel, by decide +kernel⟩

end StyleCheck.Section
