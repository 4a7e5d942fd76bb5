import StyleCheck.Proofs.Regex.Ways
import StyleCheck.Proofs.Section.Source
import StyleCheck.Proofs.Section.Ways
import StyleCheck.Section.Glob

/-!
# Expressions that list the ways to read

`Enumerates regex bounds language` says what is kept of a pattern when it is made an expression: the
ways of the expression are the readings of the language, in the order of preference, and the
captures of each say whether the ranges of the reading are within their bounds. The bounds belong to
the groups of the expression in the order of both.

The order is kept because each kind of expression tries the better choice first. It does not follow
from what an expression matches, and the steps of a star or a range can be finer in the expression
than in the pattern (a sign, and the digits behind it), so there the ways are relabelled by what
they took, which is longer in the ways that come first (`LongestFirst`).

**Theorem (`Enumerates.isMatch_iff`).** Such a glob matches the texts whose preferred reading has
every range within its bounds.
-/

namespace StyleCheck.Section

variable {word text path : List Char} {steps way more : List Step} {low high : Int} {group : Nat}
  {bounds others : List (Int × Int)} {captures : List (Regex.Capture Char)}
  {language first second : Language} {allowed : List Char → Prop} {a b r : Regex Char}

/-! ## Bounds and captures -/

/-- What the groups captured is within the bounds. The groups are numbered from `group` on. -/
def Accepts (bounds : List (Int × Int)) (group : Nat) (captures : List (Regex.Capture Char)) :
    Prop :=
  ∀ i pair capture, bounds[i]? = some pair →
    captures.find? (·.group == group + i) = some capture →
    Glob.withinBounds capture.text pair = true

theorem withinBounds_iff :
    Glob.withinBounds text (low, high) = true ↔ (Step.number text low high).Holds := by
  unfold Glob.withinBounds Step.Holds
  cases h : Text.integer? text with
  | none => simp [h]
  | some n => simp [h]

theorem isMatch_iff_accepts {glob : Glob} :
    glob.isMatch path = true ↔
      ∃ captures, glob.regex.captures? path = some captures ∧ Accepts glob.bounds 0 captures := by
  unfold Glob.isMatch
  cases glob.regex.captures? path with
  | none => simp
  | some captures =>
    simp only [Option.some.injEq, exists_eq_left', List.all_eq_true, Accepts, Nat.zero_add]
    constructor
    · intro hall i pair capture hpair hcapture
      have hi := hall (pair, i) (List.mk_mem_zipIdx_iff_getElem?.2 hpair)
      simpa [hcapture] using hi
    · rintro haccepts ⟨pair, i⟩ hmem
      dsimp only
      split
      next capture hcapture =>
        exact haccepts i pair capture (List.mk_mem_zipIdx_iff_getElem?.1 hmem) hcapture
      · rfl

/-- The captures are some of the groups that the bounds belong to, and what they captured is within
the bounds exactly if the steps hold. -/
structure Reports (bounds : List (Int × Int)) (group : Nat)
    (captures : List (Regex.Capture Char)) (steps : List Step) : Prop where
  above : ∀ capture ∈ captures, group ≤ capture.group
  below : ∀ capture ∈ captures, capture.group < group + bounds.length
  accepts : Accepts bounds group captures ↔ ∀ step ∈ steps, step.Holds

theorem reports_nil (h : ∀ step ∈ steps, step.Holds) : Reports bounds group [] steps where
  above := by simp
  below := by simp
  accepts := iff_of_true (fun _ _ _ _ hfind => by cases hfind) h

/-- Without bounds there are no captures. -/
theorem Reports.captures_eq (h : Reports [] group captures steps) : captures = [] := by
  refine List.eq_nil_iff_forall_not_mem.2 fun capture hmem => ?_
  have habove := h.above capture hmem
  have hbelow := h.below capture hmem
  rw [List.length_nil] at hbelow
  omega

theorem Reports.cons {step : Step} (h : Reports bounds group captures steps) (hstep : step.Holds) :
    Reports bounds group captures (step :: steps) where
  above := h.above
  below := h.below
  accepts := by rw [h.accepts, List.forall_mem_cons, and_iff_right hstep]

theorem reports_number :
    Reports [(low, high)] group [⟨group, text⟩] [.number text low high] where
  above := by simp
  below := by simp
  accepts := by
    rw [List.forall_mem_singleton, ← withinBounds_iff]
    constructor
    · intro h
      exact h 0 (low, high) ⟨group, text⟩ rfl (by simp)
    · intro h i pair capture hpair hcapture
      cases i with
      | zero =>
        cases hpair
        simp only [Nat.add_zero, List.find?_singleton, beq_self_eq_true, if_true,
          Option.some.injEq] at hcapture
        rw [← hcapture]
        exact h
      | succ i => cases hpair

theorem find?_eq_none_of_ne {g : Nat} (h : ∀ capture ∈ captures, capture.group ≠ g) :
    captures.find? (·.group == g) = none :=
  List.find?_eq_none.2 fun capture hmem => by simpa using h capture hmem

theorem Reports.append {back : List (Regex.Capture Char)}
    (h : Reports bounds group captures steps)
    (h' : Reports others (group + bounds.length) back more) :
    Reports (bounds ++ others) group (captures ++ back) (steps ++ more) where
  above := by
    refine List.forall_mem_append.2 ⟨h.above, fun capture hmem => ?_⟩
    exact Nat.le_of_add_right_le (h'.above capture hmem)
  below := by
    rw [List.length_append, ← Nat.add_assoc]
    refine List.forall_mem_append.2 ⟨fun capture hmem => ?_, h'.below⟩
    exact Nat.lt_of_lt_of_le (h.below capture hmem) (Nat.le_add_right _ _)
  accepts := by
    rw [List.forall_mem_append, ← h.accepts, ← h'.accepts]
    constructor
    · intro haccepts
      refine ⟨fun i pair capture hpair hcapture => ?_, fun i pair capture hpair hcapture => ?_⟩
      · refine haccepts i pair capture ?_ ?_
        · rw [List.getElem?_append_left (List.getElem?_eq_some_iff.1 hpair).1, hpair]
        · rw [List.find?_append, hcapture, Option.some_or]
      · refine haccepts (bounds.length + i) pair capture ?_ ?_
        · rw [List.getElem?_append_right (Nat.le_add_right _ _), Nat.add_sub_cancel_left, hpair]
        · have hnone : captures.find? (·.group == group + (bounds.length + i)) = none :=
            find?_eq_none_of_ne fun capture hmem heq => by
              have := h.below capture hmem
              omega
          rw [List.find?_append, hnone, Option.none_or, ← Nat.add_assoc, hcapture]
    · rintro ⟨hfirst, hsecond⟩ i pair capture hpair hcapture
      rw [List.find?_append] at hcapture
      -- The numbers of the groups tell whose capture it is.
      rcases Nat.lt_or_ge i bounds.length with hlt | hge
      · have hnone : back.find? (·.group == group + i) = none :=
          find?_eq_none_of_ne fun capture hmem heq => by
            have := h'.above capture hmem
            omega
        rw [hnone, Option.or_none] at hcapture
        rw [List.getElem?_append_left hlt] at hpair
        exact hfirst i pair capture hpair hcapture
      · have hnone : captures.find? (·.group == group + i) = none :=
          find?_eq_none_of_ne fun capture hmem heq => by
            have := h.below capture hmem
            omega
        have hi : group + bounds.length + (i - bounds.length) = group + i := by omega
        rw [hnone, Option.none_or, ← hi] at hcapture
        rw [List.getElem?_append_right hge] at hpair
        exact hsecond _ pair capture hpair hcapture

theorem Reports.left (h : Reports bounds group captures steps) :
    Reports (bounds ++ others) group captures steps := by
  have hnone : Reports others (group + bounds.length) [] [] := reports_nil (by simp)
  simpa using h.append hnone

theorem Reports.right (h : Reports others (group + bounds.length) captures steps) :
    Reports (bounds ++ others) group captures steps := by
  have hnone : Reports bounds group [] [] := reports_nil (by simp)
  exact hnone.append h

/-! ## Listings -/

/-- A way in which an expression took a word off a text, with the steps by which the word is
read. -/
structure Taken where
  steps : List Step
  captures : List (Regex.Capture Char)
  rest : List Char

/-- What is known of it without the steps. -/
def Taken.found (taken : Taken) : Regex.Found Char (List Char) := (taken.captures, taken.rest)

/-- The readings of a language at the start of a text, the preferred one first. -/
structure Lists (bounds : List (Int × Int)) (group : Nat) (text : List Char)
    (language : Language) (list : List Taken) : Prop where
  ordered : list.Pairwise fun taken other => Before taken.steps other.steps
  reports : ∀ taken ∈ list, Reports bounds group taken.captures taken.steps
  sound : ∀ taken ∈ list, ∃ word, text = word ++ taken.rest ∧ language word taken.steps
  complete : ∀ word rest steps, text = word ++ rest → language word steps →
    ∃ captures, ⟨steps, captures, rest⟩ ∈ list

theorem Lists.not_mem_rest {list : List Taken} (h : Lists bounds group text language list)
    (hline : '\n' ∉ text) {taken : Taken} (hmem : taken ∈ list) : '\n' ∉ taken.rest := by
  obtain ⟨word, heq, -⟩ := h.sound taken hmem
  exact fun hnot => hline (heq ▸ List.mem_append_right _ hnot)

theorem Lists.congr {list : List Taken} (h : Lists bounds group text first list)
    (hline : '\n' ∉ text)
    (hsame : ∀ word way, '\n' ∉ word → (second word way ↔ first word way)) :
    Lists bounds group text second list where
  ordered := h.ordered
  reports := h.reports
  sound := by
    intro taken hmem
    obtain ⟨word, heq, hword⟩ := h.sound taken hmem
    have hnot : '\n' ∉ word := fun hmem => hline (heq ▸ List.mem_append_left _ hmem)
    exact ⟨word, heq, (hsame word _ hnot).2 hword⟩
  complete := by
    intro word rest steps heq hword
    have hnot : '\n' ∉ word := fun hmem => hline (heq ▸ List.mem_append_left _ hmem)
    exact h.complete word rest steps heq ((hsame word _ hnot).1 hword)

/-- One taken word and then another one. -/
def Taken.followedBy (taken next : Taken) : Taken :=
  ⟨taken.steps ++ next.steps, taken.captures ++ next.captures, next.rest⟩

theorem Lists.seq {list : List Taken} {next : List Char → List Taken}
    (h : Lists bounds group text first list)
    (hnext : ∀ taken ∈ list,
      Lists others (group + bounds.length) taken.rest second (next taken.rest)) :
    Lists (bounds ++ others) group text (Then first second)
      (list.flatMap fun taken => (next taken.rest).map taken.followedBy) where
  ordered := by
    refine List.pairwise_flatMap.2 ⟨fun taken hmem => List.pairwise_map.2 ?_, ?_⟩
    · exact (hnext taken hmem).ordered.imp fun hbefore => hbefore.behind taken.steps
    · refine h.ordered.imp fun hbefore x hx y hy => ?_
      obtain ⟨x, -, rfl⟩ := List.mem_map.1 hx
      obtain ⟨y, -, rfl⟩ := List.mem_map.1 hy
      exact hbefore.append x.steps y.steps
  reports := by
    intro x hx
    obtain ⟨taken, hmem, hx⟩ := List.mem_flatMap.1 hx
    obtain ⟨y, hy, rfl⟩ := List.mem_map.1 hx
    exact (h.reports taken hmem).append ((hnext taken hmem).reports y hy)
  sound := by
    intro x hx
    obtain ⟨taken, hmem, hx⟩ := List.mem_flatMap.1 hx
    obtain ⟨y, hy, rfl⟩ := List.mem_map.1 hx
    obtain ⟨front, heq, hfront⟩ := h.sound taken hmem
    obtain ⟨back, heq', hback⟩ := (hnext taken hmem).sound y hy
    refine ⟨front ++ back, ?_, front, back, taken.steps, y.steps, rfl, rfl, hfront, hback⟩
    rw [List.append_assoc, heq, heq']
    rfl
  complete := by
    rintro word rest steps heq ⟨front, back, way, more, rfl, rfl, hfront, hback⟩
    obtain ⟨captures, hmem⟩ :=
      h.complete front (back ++ rest) way (by rw [heq, List.append_assoc]) hfront
    obtain ⟨captures', hmem'⟩ := (hnext _ hmem).complete back rest more rfl hback
    exact ⟨captures ++ captures', List.mem_flatMap.2 ⟨_, hmem, List.mem_map.2 ⟨_, hmem', rfl⟩⟩⟩

theorem Lists.alt {list list' : List Taken} (h : Lists bounds group text first list)
    (h' : Lists others (group + bounds.length) text second list')
    (hbefore : ∀ front back way more, first front way → second back more → Before way more) :
    Lists (bounds ++ others) group text (fun word way => first word way ∨ second word way)
      (list ++ list') where
  ordered := by
    refine List.pairwise_append.2 ⟨h.ordered, h'.ordered, fun x hx y hy => ?_⟩
    obtain ⟨front, -, hfront⟩ := h.sound x hx
    obtain ⟨back, -, hback⟩ := h'.sound y hy
    exact hbefore front back _ _ hfront hback
  reports := List.forall_mem_append.2
    ⟨fun x hx => (h.reports x hx).left, fun x hx => (h'.reports x hx).right⟩
  sound := by
    refine List.forall_mem_append.2 ⟨fun x hx => ?_, fun x hx => ?_⟩
    · obtain ⟨word, heq, hword⟩ := h.sound x hx
      exact ⟨word, heq, .inl hword⟩
    · obtain ⟨word, heq, hword⟩ := h'.sound x hx
      exact ⟨word, heq, .inr hword⟩
  complete := by
    rintro word rest steps heq (hword | hword)
    · obtain ⟨captures, hmem⟩ := h.complete word rest steps heq hword
      exact ⟨captures, List.mem_append_left _ hmem⟩
    · obtain ⟨captures, hmem⟩ := h'.complete word rest steps heq hword
      exact ⟨captures, List.mem_append_right _ hmem⟩

theorem Lists.tag {list : List Taken} (h : Lists bounds group text language list) (step : Step)
    (hstep : step.Holds) :
    Lists bounds group text (fun word way => ∃ more, way = step :: more ∧ language word more)
      (list.map fun taken => { taken with steps := step :: taken.steps }) where
  ordered := List.pairwise_map.2 (h.ordered.imp .tail)
  reports := List.forall_mem_map.2 fun taken hmem => (h.reports taken hmem).cons hstep
  sound := by
    refine List.forall_mem_map.2 fun taken hmem => ?_
    obtain ⟨word, heq, hword⟩ := h.sound taken hmem
    exact ⟨word, heq, taken.steps, rfl, hword⟩
  complete := by
    rintro word rest _ heq ⟨more, rfl, hword⟩
    obtain ⟨captures, hmem⟩ := h.complete word rest more heq hword
    exact ⟨captures, List.mem_map.2 ⟨_, hmem, rfl⟩⟩

/-! ## Expressions -/

/-- The ways of the expression are the readings of the language, the preferred ones first. -/
structure Enumerates (regex : Regex Char) (bounds : List (Int × Int)) (language : Language) :
    Prop where
  groups : regex.groups = bounds.length
  listing : ∃ list : Nat → List Char → List Taken, ∀ group text, '\n' ∉ text →
    (list group text).map Taken.found = regex.ways group text ∧
      Lists bounds group text language (list group text)

theorem Enumerates.congr (h : Enumerates r bounds first)
    (hsame : ∀ word way, '\n' ∉ word → (second word way ↔ first word way)) :
    Enumerates r bounds second := by
  obtain ⟨hgroups, list, hlist⟩ := h
  refine ⟨hgroups, list, fun group text hline => ?_⟩
  obtain ⟨hfound, hlists⟩ := hlist group text hline
  exact ⟨hfound, hlists.congr hline hsame⟩

theorem Enumerates.of_ways (h : Enumerates a bounds language) (hgroups : b.groups = a.groups)
    (hways : ∀ group text, b.ways group text = a.ways group text) :
    Enumerates b bounds language := by
  obtain ⟨hlength, list, hlist⟩ := h
  refine ⟨hgroups.trans hlength, list, fun group text hline => ?_⟩
  rw [hways]
  exact hlist group text hline

theorem Enumerates.seq (ha : Enumerates a bounds first) (hb : Enumerates b others second) :
    Enumerates (.seq a b) (bounds ++ others) (Then first second) := by
  obtain ⟨hgroups, la, hla⟩ := ha
  obtain ⟨hgroups', lb, hlb⟩ := hb
  refine ⟨by rw [Regex.groups, hgroups, hgroups', List.length_append], fun group text =>
    (la group text).flatMap fun taken =>
      (lb (group + a.groups) taken.rest).map taken.followedBy, fun group text hline => ?_⟩
  obtain ⟨hfound, hlists⟩ := hla group text hline
  have hnext := fun taken (hmem : taken ∈ la group text) =>
    hlb (group + a.groups) taken.rest (hlists.not_mem_rest hline hmem)
  constructor
  · rw [Regex.ways, ← hfound, List.flatMap_map, List.map_flatMap]
    refine List.flatMap_congr fun taken hmem => ?_
    show _ = (b.ways (group + a.groups) taken.rest).map _
    rw [← (hnext taken hmem).1, List.map_map, List.map_map]
    rfl
  · rw [hgroups] at hnext ⊢
    exact hlists.seq fun taken hmem => (hnext taken hmem).2

theorem Enumerates.alt (ha : Enumerates a bounds first) (hb : Enumerates b others second)
    (hbefore : ∀ front back way more, first front way → second back more → Before way more) :
    Enumerates (.alt a b) (bounds ++ others) fun word way => first word way ∨ second word way := by
  obtain ⟨hgroups, la, hla⟩ := ha
  obtain ⟨hgroups', lb, hlb⟩ := hb
  refine ⟨by rw [Regex.groups, hgroups, hgroups', List.length_append], fun group text =>
    la group text ++ lb (group + a.groups) text, fun group text hline => ?_⟩
  obtain ⟨hfound, hlists⟩ := hla group text hline
  obtain ⟨hfound', hlists'⟩ := hlb (group + a.groups) text hline
  refine ⟨by rw [Regex.ways, List.map_append, hfound, hfound'], ?_⟩
  rw [hgroups] at hlists' ⊢
  exact hlists.alt hlists' hbefore

/-- A choice that is made before the reading. -/
theorem Enumerates.tag (h : Enumerates r bounds language) (step : Step) (hstep : step.Holds) :
    Enumerates r bounds fun word way => ∃ more, way = step :: more ∧ language word more := by
  obtain ⟨hgroups, list, hlist⟩ := h
  refine ⟨hgroups, fun group text => (list group text).map fun taken =>
    { taken with steps := step :: taken.steps }, fun group text hline => ?_⟩
  obtain ⟨hfound, hlists⟩ := hlist group text hline
  refine ⟨?_, hlists.tag step hstep⟩
  rw [List.map_map, ← hfound]
  rfl

/-! ## Relabelling -/

/-- The word that was taken off the text. -/
def Taken.front (text : List Char) (taken : Taken) : List Char :=
  text.take (text.length - taken.rest.length)

theorem Taken.front_eq {taken : Taken} (h : text = word ++ taken.rest) :
    taken.front text = word := by
  rw [Taken.front, h, List.length_append, Nat.add_sub_cancel, List.take_left]

/-- Of two readings of the start of one text the preferred one takes more. -/
def LongestFirst (language : Language) : Prop :=
  ∀ front back way front' back' other, front ++ back = front' ++ back' → language front way →
    language front' other → Before way other → front'.length < front.length

/-- Where more is taken first, what is taken can stand for the steps. -/
theorem Lists.relabel {list : List Taken} {outer : Nat} (h : Lists [] group text language list)
    (hlongest : LongestFirst language) (label : List Char → Step)
    (report : List Char → List (Regex.Capture Char))
    (hlabel : ∀ word word' : List Char, word'.length < word.length →
      (label word).Precedes (label word'))
    (hreport : ∀ word, Reports bounds outer (report word) [label word]) :
    Lists bounds outer text (fun word way => (∃ way, language word way) ∧ way = [label word])
      (list.map fun taken =>
        ⟨[label (taken.front text)], report (taken.front text), taken.rest⟩) where
  ordered := by
    refine List.pairwise_map.2 (h.ordered.imp_of_mem fun {x y} hx hy hbefore => ?_)
    obtain ⟨front, heq, hfront⟩ := h.sound x hx
    obtain ⟨front', heq', hfront'⟩ := h.sound y hy
    -- What is listed earlier took more, so its label comes first.
    rw [Taken.front_eq heq, Taken.front_eq heq']
    exact .head (hlabel _ _ (hlongest _ _ _ _ _ _ (heq.symm.trans heq') hfront hfront' hbefore))
  reports := List.forall_mem_map.2 fun taken _ => hreport (taken.front text)
  sound := by
    refine List.forall_mem_map.2 fun taken hmem => ?_
    obtain ⟨word, heq, hword⟩ := h.sound taken hmem
    exact ⟨word, heq, ⟨taken.steps, hword⟩, by rw [Taken.front_eq heq]⟩
  complete := by
    rintro word rest _ heq ⟨⟨way, hword⟩, rfl⟩
    obtain ⟨captures, hmem⟩ := h.complete word rest way heq hword
    have hfront : Taken.front text ⟨way, captures, rest⟩ = word := Taken.front_eq heq
    exact ⟨report word, List.mem_map.2 ⟨_, hmem, by rw [hfront]⟩⟩

/-- The steps can be forgotten if they only say how much is taken. -/
theorem Enumerates.stretch (h : Enumerates r [] language) (hlongest : LongestFirst language) :
    Enumerates r [] (Stretch fun word => ∃ way, language word way) := by
  obtain ⟨hgroups, list, hlist⟩ := h
  refine ⟨hgroups, fun group text => (list group text).map fun taken =>
    ⟨[.stretch (taken.front text).length], [], taken.rest⟩, fun group text hline => ?_⟩
  obtain ⟨hfound, hlists⟩ := hlist group text hline
  constructor
  · rw [List.map_map, ← hfound]
    refine List.map_congr_left fun taken hmem => ?_
    show ([], taken.rest) = (taken.captures, taken.rest)
    rw [(hlists.reports taken hmem).captures_eq]
  · exact hlists.relabel hlongest (fun word => .stretch word.length) (fun _ => [])
      (fun _ _ hlt => .longer hlt)
      fun _ => reports_nil (List.forall_mem_singleton.2 trivial)

/-- A group reports what its expression took. -/
theorem Enumerates.number (h : Enumerates r [] language) (hlongest : LongestFirst language)
    (low high : Int) :
    Enumerates (.group r) [(low, high)]
      fun word way => (∃ way, language word way) ∧ way = [.number word low high] := by
  obtain ⟨hgroups, list, hlist⟩ := h
  refine ⟨by rw [Regex.groups, hgroups]; rfl, fun group text =>
    (list (group + 1) text).map fun taken =>
      ⟨[.number (taken.front text) low high], [⟨group, taken.front text⟩], taken.rest⟩,
    fun group text hline => ?_⟩
  obtain ⟨hfound, hlists⟩ := hlist (group + 1) text hline
  constructor
  · rw [Regex.ways, List.map_map, ← hfound, List.map_map]
    refine List.map_congr_left fun taken hmem => ?_
    show ([⟨group, taken.front text⟩], taken.rest) =
      (⟨group, taken.front text⟩ :: taken.captures, taken.rest)
    rw [(hlists.reports taken hmem).captures_eq]
  · exact hlists.relabel hlongest (fun word => .number word low high) (fun word => [⟨group, word⟩])
      (fun _ _ hlt => .moreDigits hlt) fun _ => reports_number

/-! ## Small expressions -/

theorem enumerates_empty : Enumerates .empty [] fun word way => word = [] ∧ way = [] := by
  refine ⟨rfl, fun _ text => [⟨[], [], text⟩], fun group text _ => ⟨rfl, ?_, ?_, ?_, ?_⟩⟩
  · exact List.pairwise_singleton _ _
  · exact List.forall_mem_singleton.2 (reports_nil (by simp))
  · exact List.forall_mem_singleton.2 ⟨[], rfl, rfl, rfl⟩
  · rintro _ rest _ heq ⟨rfl, rfl⟩
    exact ⟨[], List.mem_singleton.2 (by rw [heq]; rfl)⟩

theorem enumerates_one (set : Char → Bool) :
    Enumerates (.one set) [] fun word way => ∃ c, set c = true ∧ Literal c word way := by
  refine ⟨rfl, fun group text => ((Regex.one set).ways group text).map fun way =>
    ⟨[], way.1, way.2⟩, fun group text _ => ⟨by simp [Taken.found, Function.comp_def], ?_⟩⟩
  cases text with
  | nil =>
    refine ⟨.nil, by simp [Regex.ways], by simp [Regex.ways], ?_⟩
    rintro _ rest _ heq ⟨c, -, rfl, rfl⟩
    cases heq
  | cons c cs =>
    cases hc : set c with
    | false =>
      refine ⟨by simp [Regex.ways, hc], by simp [Regex.ways, hc], by simp [Regex.ways, hc], ?_⟩
      rintro _ rest _ heq ⟨d, hd, rfl, rfl⟩
      rw [(List.cons.inj heq).1, hd] at hc
      cases hc
    | true =>
      have hways : (Regex.one set).ways group (c :: cs) = [([], cs)] := by simp [Regex.ways, hc]
      simp only [hways, List.map_cons, List.map_nil]
      refine ⟨List.pairwise_singleton _ _, ?_, ?_, ?_⟩
      · exact List.forall_mem_singleton.2 (reports_nil (by simp))
      · exact List.forall_mem_singleton.2 ⟨[c], rfl, c, hc, rfl, rfl⟩
      · rintro _ rest _ heq ⟨d, hd, rfl, rfl⟩
        exact ⟨[], List.mem_singleton.2 (by rw [(List.cons.inj heq).2]; rfl)⟩

theorem enumerates_many (set : Char → Bool) :
    Enumerates (.many set) [] (Stretch fun word => ∀ c ∈ word, set c = true) := by
  refine ⟨rfl, fun _ text =>
    (List.range ((text.takeWhile set).length + 1)).reverse.map fun n =>
      ⟨[.stretch n], [], text.drop n⟩, fun group text _ => ⟨?_, ?_, ?_, ?_, ?_⟩⟩
  · simp [Regex.many, Regex.ways, Regex.afterBlocks, Taken.found, Function.comp_def]
  · -- The longest stretch is listed first.
    refine List.pairwise_map.2 (List.pairwise_reverse.2 ?_)
    exact List.pairwise_lt_range.imp fun hlt => .head (.longer hlt)
  · exact List.forall_mem_map.2 fun n _ => reports_nil (List.forall_mem_singleton.2 trivial)
  · refine List.forall_mem_map.2 fun n hn => ?_
    have hle : n ≤ (text.takeWhile set).length := by
      have := List.mem_range.1 (List.mem_reverse.1 hn)
      omega
    have hprefix := List.takeWhile_prefix set (l := text)
    have hlength : n ≤ text.length := Nat.le_trans hle hprefix.length_le
    refine ⟨text.take n, (List.take_append_drop n text).symm, fun c hc => ?_, ?_⟩
    · have hsub : text.take n <+: text.takeWhile set :=
        List.prefix_of_prefix_length_le (List.take_prefix n text) hprefix
          (Nat.le_trans (List.length_take_le n text) hle)
      exact List.all_eq_true.1 List.all_takeWhile c (hsub.subset hc)
    · rw [List.length_take, Nat.min_eq_left hlength]
  · rintro word rest _ rfl ⟨hword, rfl⟩
    refine ⟨[], List.mem_map.2 ⟨word.length, List.mem_reverse.2 (List.mem_range.2 ?_), ?_⟩⟩
    · rw [List.takeWhile_append_of_pos hword, List.length_append]
      omega
    · rw [List.drop_left]

theorem enumerates_symbol (c : Char) : Enumerates (.symbol c) [] (Literal c) := by
  refine (enumerates_one _).congr fun word way _ => ?_
  constructor
  · intro h
    exact ⟨c, beq_self_eq_true c, h⟩
  · rintro ⟨d, hd, h⟩
    rw [← beq_iff_eq.1 hd]
    exact h

theorem Enumerates.optional (h : Enumerates r [] language) :
    Enumerates (.optional r) [] fun word way =>
      (∃ more, way = .branch 0 :: more ∧ language word more) ∨ word = [] ∧ way = [.branch 1] := by
  have hnothing := enumerates_empty.tag (.branch 1) trivial
  refine ((h.tag (.branch 0) trivial).alt hnothing ?_).congr fun word way _ => or_congr_right ?_
  · rintro _ _ _ _ ⟨_, rfl, -⟩ ⟨_, rfl, -⟩
    exact .head (.earlier Nat.zero_lt_one)
  · constructor
    · rintro ⟨rfl, rfl⟩
      exact ⟨[], rfl, rfl, rfl⟩
    · rintro ⟨_, rfl, rfl, rfl⟩
      exact ⟨rfl, rfl⟩

/-! ## The first match -/

/-- The first word that leaves nothing is read in the preferred way. -/
theorem Lists.preferred {list : List Taken} {taken : Taken}
    (h : Lists bounds group text language list)
    (hfind : list.find? (fun taken => taken.rest.isEmpty) = some taken) :
    Preferred language text taken.steps := by
  obtain ⟨hempty, before, behind, rfl, hbefore⟩ := List.find?_eq_some_iff_append.1 hfind
  have hrest := List.isEmpty_iff.1 hempty
  have hmem : taken ∈ before ++ taken :: behind := by simp
  refine ⟨?_, fun other hother => ?_⟩
  · obtain ⟨word, heq, hword⟩ := h.sound taken hmem
    rw [hrest, List.append_nil] at heq
    rw [heq]
    exact hword
  · obtain ⟨captures, hin⟩ := h.complete text [] other (List.append_nil text).symm hother
    rcases List.mem_append.1 hin with hin | hin
    · cases hbefore _ hin
    · rcases List.mem_cons.1 hin with heq | hin
      · exact .inl (congrArg Taken.steps heq)
      · exact .inr ((List.pairwise_cons.1 (List.pairwise_append.1 h.ordered).2.1).1 _ hin)

/-- Either there is no way to read the text, or the captures are those of the preferred way. -/
theorem Enumerates.captures?_cases (h : Enumerates r bounds language) (hline : '\n' ∉ path) :
    (r.captures? path = none ∧ ∀ way, ¬ language path way) ∨
      ∃ captures way, r.captures? path = some captures ∧ Preferred language path way ∧
        (Accepts bounds 0 captures ↔ ∀ step ∈ way, step.Holds) := by
  obtain ⟨-, list, hlist⟩ := h
  obtain ⟨hfound, hlists⟩ := hlist 0 path hline
  have hcaptures : r.captures? path =
      ((list 0 path).find? fun taken => taken.rest.isEmpty).map Taken.captures := by
    rw [Regex.captures?_eq, ← hfound, List.find?_map, Option.map_map]
    rfl
  rw [hcaptures]
  cases hfind : (list 0 path).find? fun taken => taken.rest.isEmpty with
  | none =>
    refine .inl ⟨rfl, fun way hway => ?_⟩
    obtain ⟨captures, hmem⟩ := hlists.complete path [] way (List.append_nil path).symm hway
    exact List.find?_eq_none.1 hfind _ hmem rfl
  | some taken =>
    exact .inr ⟨taken.captures, taken.steps, rfl, hlists.preferred hfind,
      (hlists.reports taken (List.mem_of_find?_eq_some hfind)).accepts⟩

theorem Enumerates.exists_preferred (h : Enumerates r bounds language) (hline : '\n' ∉ path)
    (hway : language path way) : ∃ way, Preferred language path way := by
  rcases h.captures?_cases hline with ⟨-, hnone⟩ | ⟨captures, way, -, hpreferred, -⟩
  · exact absurd hway (hnone way)
  · exact ⟨way, hpreferred⟩

/-- **The glob matches what is read in the preferred way with every range within its bounds.** -/
theorem Enumerates.isMatch_iff (h : Enumerates r bounds language) (hline : '\n' ∉ path) :
    Glob.isMatch ⟨r, bounds⟩ path = true ↔
      ∃ way, Preferred language path way ∧ ∀ step ∈ way, step.Holds := by
  rw [isMatch_iff_accepts]
  rcases h.captures?_cases hline with
    ⟨hcaptures, hnone⟩ | ⟨captures, way, hcaptures, hway, haccepts⟩
  · constructor
    · rintro ⟨captures, hsome, -⟩
      rw [hcaptures] at hsome
      cases hsome
    · rintro ⟨way, hway, -⟩
      exact absurd hway.1 (hnone way)
  · constructor
    · rintro ⟨captures', hsome, hbounds⟩
      rw [hcaptures] at hsome
      cases hsome
      exact ⟨way, hway, haccepts.1 hbounds⟩
    · rintro ⟨other, hother, hholds⟩
      rw [← hway.unique hother] at hholds
      exact ⟨captures, hcaptures, haccepts.2 hholds⟩

end StyleCheck.Section
