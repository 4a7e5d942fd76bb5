import StyleCheck.Charset.Detection
import StyleCheck.Proofs.Order

/-!
# The charset that is selected

**Theorem (`selects_best`).** No charset is selected if and only if no candidate has a known name.
Otherwise it is that of the best candidate with a known name: the one with the highest confidence,
and of several the one with the smallest name. So candidates of unknown names count for nothing, and
neither do the order of the others and how often they are proposed; and of candidates in the order
in which detection gives them, it is the first known one.

The best candidate is unique, because two candidates that are as good as each other are the same
(`Candidate.le_antisymm`). Going through the candidates keeps the best of those that were seen
(`le_foldl_better`), and everything else is said of the best candidate alone.
-/

namespace StyleCheck.Charset

variable {candidates others : List Candidate} {a b c best other : Candidate} {charset : Charset}
  {guess : Guess} {bytes : List UInt8}

/-! ## The order of candidates -/

theorem Candidate.le_iff :
    a.le b = true ↔ b.confidence < a.confidence ∨ a.confidence = b.confidence ∧ a.name ≤ b.name := by
  simp [Candidate.le]

theorem Candidate.ranksBy :
    RanksBy Candidate.le (fun c => -(c.confidence : Int)) Candidate.name where
  le_iff {a b} := by rw [le_iff, Int.neg_lt_neg_iff, Int.ofNat_lt, Int.neg_inj, Int.ofNat_inj]

theorem Candidate.le_antisymm (hab : a.le b = true) (hba : b.le a = true) : a = b := by
  obtain ⟨hconfidence, hname⟩ := ranksBy.antisymm hab hba
  obtain ⟨name, confidence⟩ := a
  obtain ⟨name', confidence'⟩ := b
  obtain rfl : confidence = confidence' := Int.ofNat_inj.1 (Int.neg_inj.1 hconfidence)
  obtain rfl : name = name' := hname
  rfl

/-- The candidates stand in their order. -/
def IsRanked (candidates : List Candidate) : Prop := candidates.Pairwise fun a b => a.le b = true

theorem isRanked_candidates (guess : Guess) (bytes : List UInt8) :
    IsRanked (Charset.candidates guess bytes) := by
  unfold Charset.candidates
  split
  · exact List.pairwise_singleton _ _
  · dsimp only
    split
    · exact @List.pairwise_mergeSort _ Candidate.le (fun _ _ _ => Candidate.ranksBy.trans)
        (fun a b => Bool.or_eq_true_iff.2 (Candidate.ranksBy.total a b)) _
    · exact List.pairwise_singleton _ _

/-! ## The best candidate -/

/-- The name of the candidate is that of a charset. -/
def Candidate.IsKnown (c : Candidate) : Prop := ∃ charset, Charset.ofName? c.name = some charset

/-- No known candidate has a higher confidence, or the same confidence and a smaller name. -/
structure IsBest (candidates : List Candidate) (best : Candidate) : Prop where
  mem : best ∈ candidates
  isKnown : best.IsKnown
  first : ∀ c ∈ candidates, c.IsKnown →
    c.confidence < best.confidence ∨ best.confidence = c.confidence ∧ best.name ≤ c.name

theorem IsBest.le (h : IsBest candidates best) (hmem : c ∈ candidates) (hknown : c.IsKnown) :
    best.le c = true :=
  Candidate.le_iff.2 (h.first c hmem hknown)

theorem IsBest.unique (h : IsBest candidates best) (h' : IsBest candidates other) :
    best = other :=
  Candidate.le_antisymm (h.le h'.mem h'.isKnown) (h'.le h.mem h.isKnown)

/-- Candidates of unknown names, the order and repetitions do not matter. -/
theorem IsBest.congr (h : IsBest candidates best)
    (hknown : ∀ c : Candidate, c.IsKnown → (c ∈ others ↔ c ∈ candidates)) : IsBest others best where
  mem := (hknown best h.isKnown).2 h.mem
  isKnown := h.isKnown
  first c hmem hc := h.first c ((hknown c hc).1 hmem) hc

/-! ## Selecting -/

theorem better_cases (a b : Candidate × Charset) :
    (better a b = a ∨ better a b = b) ∧ (better a b).1.le a.1 = true ∧
      (better a b).1.le b.1 = true := by
  unfold better
  split
  next hle => exact ⟨.inl rfl, Candidate.ranksBy.refl _, hle⟩
  next hle =>
    have hba := (Candidate.ranksBy.total a.1 b.1).resolve_left hle
    exact ⟨.inr rfl, hba, Candidate.ranksBy.refl _⟩

/-- Going through candidates keeps the best one. -/
theorem le_foldl_better (first : Candidate × Charset) (more : List (Candidate × Charset)) :
    more.foldl better first ∈ first :: more ∧
      ∀ entry ∈ first :: more, (more.foldl better first).1.le entry.1 = true := by
  induction more generalizing first with
  | nil => simp [Candidate.ranksBy.refl]
  | cons second more ih =>
    obtain ⟨hor, hfirst, hsecond⟩ := better_cases first second
    obtain ⟨hmem, hle⟩ := ih (better first second)
    rw [List.foldl_cons]
    constructor
    · rcases List.mem_cons.1 hmem with heq | hmem
      · rw [heq]
        rcases hor with hor | hor <;> simp [hor]
      · exact List.mem_cons_of_mem _ (List.mem_cons_of_mem _ hmem)
    · have hbetter := hle _ List.mem_cons_self
      simp only [List.forall_mem_cons] at hle ⊢
      exact ⟨Candidate.ranksBy.trans hbetter hfirst, Candidate.ranksBy.trans hbetter hsecond, hle.2⟩

/-- The candidates with known names, and their charsets. -/
theorem mem_known {known : List (Candidate × Charset)}
    (h : known = candidates.filterMap fun c => (Charset.ofName? c.name).map (c, ·)) :
    (c, charset) ∈ known ↔ c ∈ candidates ∧ Charset.ofName? c.name = some charset := by
  rw [h, List.mem_filterMap]
  constructor
  · rintro ⟨other, hmem, hother⟩
    obtain ⟨charset, hname, ⟨⟩⟩ := Option.map_eq_some_iff.1 hother
    exact ⟨hmem, hname⟩
  · rintro ⟨hmem, hname⟩
    exact ⟨c, hmem, by rw [hname]; rfl⟩

theorem select?_cases (candidates : List Candidate) :
    (select? candidates = none ∧ ∀ c ∈ candidates, Charset.ofName? c.name = none) ∨
      ∃ best charset, select? candidates = some charset ∧ IsBest candidates best ∧
        Charset.ofName? best.name = some charset := by
  unfold select?
  generalize hknown : candidates.filterMap _ = known
  have hmem {c charset} : (c, charset) ∈ known ↔
      c ∈ candidates ∧ Charset.ofName? c.name = some charset := mem_known hknown.symm
  cases known with
  | nil =>
    refine .inl ⟨rfl, fun c hc => Option.eq_none_iff_forall_ne_some.2 fun charset hname => ?_⟩
    exact List.not_mem_nil (hmem.2 ⟨hc, hname⟩)
  | cons first more =>
    obtain ⟨hfold, hle⟩ := le_foldl_better first more
    obtain ⟨hbest, hname⟩ := hmem.1 hfold
    refine .inr ⟨_, _, rfl, ⟨hbest, ⟨_, hname⟩, ?_⟩, hname⟩
    rintro c hc ⟨charset, hcharset⟩
    exact Candidate.le_iff.1 (hle _ (hmem.2 ⟨hc, hcharset⟩))

theorem select?_eq_none_iff :
    select? candidates = none ↔ ∀ c ∈ candidates, Charset.ofName? c.name = none := by
  rcases select?_cases candidates with ⟨hnone, hunknown⟩ | ⟨best, charset, hselect, hbest, hname⟩
  · exact iff_of_true hnone hunknown
  · refine iff_of_false (by rw [hselect]; exact nofun) fun hunknown => ?_
    rw [hunknown best hbest.mem] at hname
    cases hname

theorem select?_eq_some_iff : select? candidates = some charset ↔
    ∃ best, IsBest candidates best ∧ Charset.ofName? best.name = some charset := by
  rcases select?_cases candidates with ⟨hnone, hunknown⟩ | ⟨best, found, hselect, hbest, hname⟩
  · rw [hnone]
    refine iff_of_false nofun ?_
    rintro ⟨best, hbest, hname⟩
    rw [hunknown best hbest.mem] at hname
    cases hname
  · rw [hselect, Option.some.injEq]
    constructor
    · rintro rfl
      exact ⟨best, hbest, hname⟩
    · rintro ⟨other, hother, hcharset⟩
      rw [hbest.unique hother, hcharset] at hname
      exact (Option.some.inj hname).symm

/-- The selection depends on nothing but which known candidates there are. -/
theorem select?_congr
    (h : ∀ c : Candidate, c.IsKnown → (c ∈ others ↔ c ∈ candidates)) :
    select? others = select? candidates := by
  refine Option.ext fun charset => ?_
  rw [select?_eq_some_iff, select?_eq_some_iff]
  constructor
  · rintro ⟨best, hbest, hname⟩
    exact ⟨best, hbest.congr fun c hc => (h c hc).symm, hname⟩
  · rintro ⟨best, hbest, hname⟩
    exact ⟨best, hbest.congr h, hname⟩

/-- Of candidates in their order, the first known one is the best. -/
theorem select?_of_isRanked (h : IsRanked candidates) :
    select? candidates = candidates.findSome? fun c => Charset.ofName? c.name := by
  cases hfind : candidates.findSome? fun c => Charset.ofName? c.name with
  | none => exact select?_eq_none_iff.2 (List.findSome?_eq_none_iff.1 hfind)
  | some charset =>
    obtain ⟨before, best, after, rfl, hname, hbefore⟩ := List.findSome?_eq_some_iff.1 hfind
    refine select?_eq_some_iff.2 ⟨best, ⟨by simp, ⟨_, hname⟩, ?_⟩, hname⟩
    rintro c hc ⟨other, hother⟩
    obtain ⟨-, hbest, -⟩ := List.pairwise_append.1 h
    rcases List.mem_append.1 hc with hc | hc
    · rw [hbefore c hc] at hother
      cases hother
    rcases List.mem_cons.1 hc with rfl | hc
    · exact Candidate.le_iff.1 (Candidate.ranksBy.refl _)
    · exact Candidate.le_iff.1 (List.rel_of_pairwise_cons hbest hc)

/-- What is selected of some candidates, and what it depends on. -/
structure SelectsBest (candidates : List Candidate) : Prop where
  /-- No charset is selected if and only if no name is known. -/
  none_iff : select? candidates = none ↔ ∀ c ∈ candidates, Charset.ofName? c.name = none
  /-- The charset that is selected is that of the best candidate. -/
  some_iff : ∀ charset, select? candidates = some charset ↔
    ∃ best, IsBest candidates best ∧ Charset.ofName? best.name = some charset
  /-- Other candidates lead to the same charset if the known ones among them are the same, in
  whatever order, however often and among whatever unknown ones. -/
  canonical : ∀ others : List Candidate,
    (∀ c : Candidate, c.IsKnown → (c ∈ others ↔ c ∈ candidates)) →
      select? others = select? candidates
  /-- Of candidates in their order, the first known one is selected. -/
  first : IsRanked candidates →
    select? candidates = candidates.findSome? fun c => Charset.ofName? c.name
  /-- Detection gives candidates in their order. -/
  ranked : ∀ guess bytes, IsRanked (Charset.candidates guess bytes)

/-- **The charset of the best known candidate is selected**, whatever else there is. -/
theorem selects_best (candidates : List Candidate) : SelectsBest candidates where
  none_iff := select?_eq_none_iff
  some_iff _ := select?_eq_some_iff
  canonical _ := select?_congr
  first := select?_of_isRanked
  ranked := isRanked_candidates

end StyleCheck.Charset
