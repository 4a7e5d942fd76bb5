import Mathlib.Data.Nat.Find
import StyleCheck.Validation.Content

/-!
# Exempt lines

Which lines the markers in a text exempt, said of the text as a whole. Blocks are looked for from
the first line on: a block opens at the next line with a start marker and closes at the next line
after that with an end marker, or at the end of the text, and the search goes on behind it. The
lines strictly between the ends of a block are exempt, and so is every line with the line marker.

**Theorem (`isExempt_iff`).** A line is exempt exactly if it has the line marker or is passed over
by the check that goes through the lines and remembers whether a block is open.

The check is in a state before each line (`skippingAt`). Between blocks it looks for a start marker
(`skippingAt_of_searched`), inside one for an end marker (`skippingAt_of_block`). The other way
round, each state tells where the search last went on and where the open block started, by
induction on the lines before (`exists_searched_or_opened`).
-/

namespace StyleCheck.Validation

variable {lines : List (List Char)} {marker : Marker} {position first last start i j : Nat}

/-! ## Blocks -/

/-- The marker is on the line with this number. -/
def OnLine (marker : Marker) (lines : List (List Char)) (i : Nat) : Prop :=
  ∃ line, lines[i]? = some line ∧ marker.occursIn line = true

/-- The marker is on this line, and on none from `start` on before it. -/
structure IsNext (marker : Marker) (lines : List (List Char)) (start i : Nat) : Prop where
  le : start ≤ i
  onLine : OnLine marker lines i
  first : ∀ j, start ≤ j → j < i → ¬ OnLine marker lines j

/-- The block that is found by searching from `position` on opens at `first` and closes at `last`,
which is the number of lines for a block without an end. -/
structure IsBlock (lines : List (List Char)) (position first last : Nat) : Prop where
  opened : IsNext .start lines position first
  closed : IsNext .stop lines (first + 1) last ∨
    (∀ j, first < j → ¬ OnLine .stop lines j) ∧ last = lines.length

/-- The lines from which blocks are searched for: the first one, and the one behind each block. -/
inductive Searched (lines : List (List Char)) : Nat → Prop
  | start : Searched lines 0
  | resume {position first last : Nat} :
    Searched lines position → IsBlock lines position first last → Searched lines (last + 1)

/-- The line is exempt from the checks: by a marker of its own, or inside of a block. -/
def IsExempt (lines : List (List Char)) (i : Nat) : Prop :=
  OnLine .line lines i ∨
    ∃ position first last, Searched lines position ∧ IsBlock lines position first last ∧
      first < i ∧ i < last

/-- The line lies strictly between the ends of a block. -/
def IsInside (lines : List (List Char)) (i : Nat) : Prop :=
  ∃ position first last, Searched lines position ∧ IsBlock lines position first last ∧
    first < i ∧ i < last

/-! ## The state of the check -/

/-- Whether a block is open behind a line, given whether one is open before it. -/
def skippingAfter (skipping : Bool) (line : List Char) : Bool :=
  if skipping then !Marker.stop.occursIn line else Marker.start.occursIn line

/-- Whether a line is passed over, given whether a block is open before it. -/
def isPassed (skipping : Bool) (line : List Char) : Bool :=
  Marker.line.occursIn line || skipping && !Marker.stop.occursIn line

/-- Whether a block is open before the line with this number. -/
def skippingAt (lines : List (List Char)) (i : Nat) : Bool :=
  (lines.take i).foldl skippingAfter false

theorem skippingAt_succ {line : List Char} (h : lines[i]? = some line) :
    skippingAt lines (i + 1) = skippingAfter (skippingAt lines i) line := by
  rw [skippingAt, List.take_add_one, h, List.foldl_append]
  rfl

theorem onLine_iff {line : List Char} (h : lines[i]? = some line) :
    OnLine marker lines i ↔ marker.occursIn line = true := by
  constructor
  · rintro ⟨other, hother, hmarker⟩
    rw [h] at hother
    cases hother
    exact hmarker
  · intro hmarker
    exact ⟨line, h, hmarker⟩

theorem OnLine.lt (h : OnLine marker lines i) : i < lines.length := by
  obtain ⟨line, hline, -⟩ := h
  exact (List.getElem?_eq_some_iff.1 hline).1

theorem IsBlock.last_le (h : IsBlock lines position first last) : last ≤ lines.length := by
  rcases h.closed with hstop | ⟨-, hlast⟩
  · exact Nat.le_of_lt hstop.onLine.lt
  · exact Nat.le_of_eq hlast

theorem skippingAt_succ_of_true (h : skippingAt lines i = true) (hi : i < lines.length) :
    skippingAt lines (i + 1) = true ↔ ¬ OnLine .stop lines i := by
  have hline := List.getElem?_eq_getElem hi
  rw [skippingAt_succ hline, onLine_iff hline, h, skippingAfter]
  simp

theorem skippingAt_succ_of_false (h : skippingAt lines i = false) (hi : i < lines.length) :
    skippingAt lines (i + 1) = true ↔ OnLine .start lines i := by
  have hline := List.getElem?_eq_getElem hi
  rw [skippingAt_succ hline, onLine_iff hline, h, skippingAfter]
  simp

/-! ## From blocks to the state -/

/-- No block is open from the place of a search up to the line where it finds one. -/
theorem skippingAt_of_isNext (hposition : skippingAt lines position = false)
    (h : IsNext .start lines position first) (hle : position ≤ i) (hi : i ≤ first) :
    skippingAt lines i = false := by
  induction i, hle using Nat.le_induction with
  | base => exact hposition
  | succ j hj ih =>
    have hlength : j < lines.length := by
      have := h.onLine.lt
      omega
    rw [Bool.eq_false_iff, Ne, skippingAt_succ_of_false (ih (by omega)) hlength]
    exact h.first j hj hi

/-- A block is open from the line behind its first one to its last one. -/
theorem skippingAt_of_block (hposition : skippingAt lines position = false)
    (h : IsBlock lines position first last) (hfirst : first < i) (hi : i ≤ last) :
    skippingAt lines i = true := by
  have hfree : ∀ j, first < j → j < last → ¬ OnLine .stop lines j := by
    intro j hj hlast
    rcases h.closed with hstop | ⟨hnone, -⟩
    · exact hstop.first j hj hlast
    · exact hnone j hj
  have hlength := h.last_le
  induction i, hfirst using Nat.le_induction with
  | base =>
    have hbefore := skippingAt_of_isNext hposition h.opened h.opened.le (Nat.le_refl first)
    exact (skippingAt_succ_of_false hbefore h.opened.onLine.lt).2 h.opened.onLine
  | succ j hj ih =>
    exact (skippingAt_succ_of_true (ih (by omega)) (by omega)).2 (hfree j hj hi)

/-- No block is open where a search starts. -/
theorem skippingAt_of_searched (h : Searched lines position) (hlength : position ≤ lines.length) :
    skippingAt lines position = false := by
  induction h with
  | start => rfl
  | @resume position first last _ hblock ih =>
    have hopened := hblock.opened.le
    have hbefore := ih (Nat.le_trans hopened (Nat.le_of_lt hblock.opened.onLine.lt))
    rcases hblock.closed with hstop | ⟨-, rfl⟩
    · have hlast := skippingAt_of_block hbefore hblock hstop.le (Nat.le_refl last)
      rw [Bool.eq_false_iff, Ne, skippingAt_succ_of_true hlast hstop.onLine.lt, not_not]
      exact hstop.onLine
    · omega

/-! ## From the state to blocks -/

/-- Where the check stands before a line: between blocks it is still in the search that last
started, and inside of a block no end marker has come yet. -/
theorem exists_searched_or_opened (hi : i ≤ lines.length) :
    (skippingAt lines i = false ∧ ∃ position, Searched lines position ∧ position ≤ i ∧
      ∀ j, position ≤ j → j < i → ¬ OnLine .start lines j) ∨
    (skippingAt lines i = true ∧ ∃ position first, Searched lines position ∧
      IsNext .start lines position first ∧ first < i ∧
      ∀ j, first < j → j < i → ¬ OnLine .stop lines j) := by
  induction i with
  | zero => exact .inl ⟨rfl, 0, .start, Nat.le_refl 0, fun j _ hj => absurd hj (Nat.not_lt_zero j)⟩
  | succ i ih =>
    rcases ih (Nat.le_of_succ_le hi) with
      ⟨hclosed, position, hsearched, hle, hnone⟩ |
      ⟨hopen, position, first, hsearched, hfirst, hlt, hnone⟩
    · by_cases hstart : OnLine .start lines i
      · refine .inr ⟨(skippingAt_succ_of_false hclosed hi).2 hstart, position, i, hsearched,
          ⟨hle, hstart, hnone⟩, Nat.lt_succ_self i, fun j hj hji => ?_⟩
        omega
      · refine .inl ⟨?_, position, hsearched, Nat.le_succ_of_le hle, fun j hj hji => ?_⟩
        · rw [Bool.eq_false_iff, Ne, skippingAt_succ_of_false hclosed hi]
          exact hstart
        · rcases Nat.lt_succ_iff_lt_or_eq.1 hji with hji | rfl
          · exact hnone j hj hji
          · exact hstart
    · by_cases hstop : OnLine .stop lines i
      · -- The block closes here, and the search is resumed behind this line.
        refine .inl ⟨?_, i + 1, .resume hsearched ⟨hfirst, .inl ⟨hlt, hstop, hnone⟩⟩,
          Nat.le_refl _, fun j hj hji => ?_⟩
        · rw [Bool.eq_false_iff, Ne, skippingAt_succ_of_true hopen hi, not_not]
          exact hstop
        · omega
      · refine .inr ⟨(skippingAt_succ_of_true hopen hi).2 hstop, position, first, hsearched, hfirst,
          Nat.lt_succ_of_lt hlt, fun j hj hji => ?_⟩
        rcases Nat.lt_succ_iff_lt_or_eq.1 hji with hji | rfl
        · exact hnone j hj hji
        · exact hstop

theorem exists_isBlock (h : IsNext .start lines position first)
    (hi : i < lines.length) (hnone : ∀ j, first < j → j ≤ i → ¬ OnLine .stop lines j) :
    ∃ last, IsBlock lines position first last ∧ i < last := by
  classical
  by_cases hstop : ∃ j, first < j ∧ OnLine .stop lines j
  · obtain ⟨hlt, honLine⟩ := Nat.find_spec hstop
    refine ⟨Nat.find hstop, ⟨h, .inl ⟨hlt, honLine, fun j hj hlast hon => ?_⟩⟩, ?_⟩
    · exact Nat.find_min hstop hlast ⟨hj, hon⟩
    · exact Nat.lt_of_not_le fun hle => hnone _ hlt hle honLine
  · exact ⟨lines.length, ⟨h, .inr ⟨fun j hj hon => hstop ⟨j, hj, hon⟩, rfl⟩⟩, hi⟩

/-! ## Main result -/

/-- A line is inside of a block exactly if a block is open before it and it has no end marker. -/
theorem isInside_iff {line : List Char} (h : lines[i]? = some line) :
    IsInside lines i ↔ skippingAt lines i = true ∧ Marker.stop.occursIn line = false := by
  have hi : i < lines.length := (List.getElem?_eq_some_iff.1 h).1
  have hstop : Marker.stop.occursIn line = false ↔ ¬ OnLine .stop lines i := by
    rw [onLine_iff h, Bool.not_eq_true]
  rw [hstop]
  constructor
  · rintro ⟨position, first, last, hsearched, hblock, hfirst, hlast⟩
    have hopened := hblock.opened.le
    have hposition := skippingAt_of_searched hsearched (by omega)
    refine ⟨skippingAt_of_block hposition hblock hfirst (Nat.le_of_lt hlast), ?_⟩
    rcases hblock.closed with hnext | ⟨hnone, -⟩
    · exact hnext.first i hfirst hlast
    · exact hnone i hfirst
  · rintro ⟨hopen, hnot⟩
    rcases exists_searched_or_opened (Nat.le_of_lt hi) with
      ⟨hclosed, -⟩ | ⟨-, position, first, hsearched, hstart, hfirst, hnone⟩
    · rw [hopen] at hclosed
      cases hclosed
    · -- The block that is open has no end marker up to this line, so it closes behind it.
      have hfree : ∀ j, first < j → j ≤ i → ¬ OnLine .stop lines j := by
        intro j hj hji
        rcases Nat.lt_or_eq_of_le hji with hji | rfl
        · exact hnone j hj hji
        · exact hnot
      obtain ⟨last, hblock, hlast⟩ := exists_isBlock hstart hi hfree
      exact ⟨position, first, last, hsearched, hblock, hfirst, hlast⟩

/-- **A line is exempt exactly if it has the line marker or is passed over**: a block is open
before it, and it has no end marker. -/
theorem isExempt_iff {line : List Char} (h : lines[i]? = some line) :
    IsExempt lines i ↔
      Marker.line.occursIn line = true ∨
        skippingAt lines i = true ∧ Marker.stop.occursIn line = false := by
  rw [IsExempt, onLine_iff h]
  exact or_congr_right (isInside_iff h)

theorem isExempt_iff_isPassed {line : List Char} (h : lines[i]? = some line) :
    IsExempt lines i ↔ isPassed (skippingAt lines i) line = true := by
  rw [isExempt_iff h, isPassed, Bool.or_eq_true, Bool.and_eq_true, Bool.not_eq_true']

theorem IsExempt.lt (h : IsExempt lines i) : i < lines.length := by
  rcases h with hline | ⟨position, first, last, -, hblock, -, hlast⟩
  · exact hline.lt
  · exact Nat.lt_of_lt_of_le hlast hblock.last_le

instance (lines : List (List Char)) (i : Nat) : Decidable (IsExempt lines i) :=
  if h : i < lines.length then
    decidable_of_iff _ (isExempt_iff (List.getElem?_eq_getElem h)).symm
  else .isFalse fun hexempt => h hexempt.lt

/-- A start marker on the line that closes a block opens no other one. -/
example :
    let lines := ["ec-guard:disable-start", "", "ec-guard:disable-end ec-guard:disable-start", ""]
    (List.range 4).filter (IsExempt (lines.map String.toList) ·) = [1] := by
  decide

end StyleCheck.Validation
