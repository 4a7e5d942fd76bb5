import StyleCheck.Proofs.Section.Listing
import Mathlib.Data.List.Forall2

/-!
# Every number is judged by its own bounds

A glob finds the bounds of a number by the number of the group that captured it. The ways of a
pattern (`patternWays`) are said without groups: what a range takes comes with the bounds of that
very range.

**Theorem (`Judges.isMatch_iff_find?`).** A glob matches a text exactly when the first way of its
pattern that leaves nothing has every number within the bounds of its own range.

The ways of the expression and those of the pattern are the same lists, entry by entry, and of each
entry the captures judged by the numbers of their groups are what the pattern judges (`Judges`).
Pieces in a row or beside each other number their groups from where the first one stopped, so that
their bounds can be put one after the other (`Reports.append`).
-/

namespace StyleCheck.Section

variable {group : Nat} {text path : List Char} {bounds others : List (Int × Int)}
  {a b regex : Regex Char} {first second : List Char → List (List Step × List Char)}

/-! ## The ways of a pattern -/

mutual

/-- The ways to take a word off a text by a piece, the preferred one first: what the ranges took,
each with its own bounds, and what is left of the text. -/
def Piece.ways : Piece → List Char → List (List Step × List Char)
  | .range low high, text =>
    (signedDigits.ways 0 text).map fun way =>
      ([.number (text.take (text.length - way.2.length)) low high], way.2)
  | .either parts, text => partsWays parts text
  | piece, text =>
    (piece.regex?.elim [] fun regex => regex.ways 0 text).map fun way => ([], way.2)

/-- The ways to take a word off a text by the pieces of a pattern. -/
def patternWays : List Piece → List Char → List (List Step × List Char)
  | [], text => [([], text)]
  | piece :: pieces, text =>
    (piece.ways text).flatMap fun first =>
      (patternWays pieces first.2).map fun next => (first.1 ++ next.1, next.2)

/-- The ways to take a word off a text by one of several patterns. -/
def partsWays : List (List Piece) → List Char → List (List Step × List Char)
  | [], text => [([], text)]
  | [part], text => patternWays part text
  | part :: parts, text => patternWays part text ++ partsWays parts text

end

/-! ## Expressions without groups -/

/-- An expression without groups captures nothing, whatever the number of the next group is. -/
theorem exists_ways_eq {σ : Type} {r : Regex σ} (h : r.groups = 0) :
    ∃ rests : List σ → List (List σ), ∀ group text,
      r.ways group text = (rests text).map ([], ·) := by
  induction r with
  | empty => exact ⟨fun text => [text], fun _ _ => rfl⟩
  | one set =>
    refine ⟨fun text => ((Regex.one set).ways 0 text).map Prod.snd, fun group text => ?_⟩
    cases text with
    | nil => rfl
    | cons c cs => cases hc : set c <;> simp [Regex.ways, hc]
  | blocks set size => exact ⟨Regex.afterBlocks set size, fun _ _ => rfl⟩
  | atEnd =>
    refine ⟨fun text => ((Regex.atEnd : Regex σ).ways 0 text).map Prod.snd, fun group text => ?_⟩
    cases text <;> rfl
  | seq a b iha ihb =>
    -- Neither part captures anything, so the number of the next group does not move.
    obtain ⟨ha, hb⟩ := Nat.add_eq_zero_iff.1 h
    obtain ⟨first, hfirst⟩ := iha ha
    obtain ⟨second, hsecond⟩ := ihb hb
    refine ⟨fun text => (first text).flatMap second, fun group text => ?_⟩
    simp [Regex.ways, hfirst, hsecond, List.flatMap_map, List.map_flatMap, Function.comp_def]
  | alt a b iha ihb =>
    obtain ⟨ha, hb⟩ := Nat.add_eq_zero_iff.1 h
    obtain ⟨first, hfirst⟩ := iha ha
    obtain ⟨second, hsecond⟩ := ihb hb
    refine ⟨fun text => first text ++ second text, fun group text => ?_⟩
    simp [Regex.ways, hfirst, hsecond]
  | group a _ => cases h

/-! ## Judging by numbers and by ranges -/

/-- The way of an expression leaves what the way of a pattern leaves, and its captures are judged
as the numbers of the other one are. -/
def SameJudgement (bounds : List (Int × Int)) (group : Nat)
    (found : Regex.Found Char (List Char)) (way : List Step × List Char) : Prop :=
  found.2 = way.2 ∧ Reports bounds group found.1 way.1

/-- The expression has the ways of a pattern, and its groups belong to the bounds in their order. -/
structure Judges (regex : Regex Char) (bounds : List (Int × Int))
    (ways : List Char → List (List Step × List Char)) : Prop where
  groups : regex.groups = bounds.length
  same : ∀ group text, List.Forall₂ (SameJudgement bounds group) (regex.ways group text) (ways text)

theorem judges_of_groups (h : regex.groups = 0) :
    Judges regex [] fun text => (regex.ways 0 text).map fun way => ([], way.2) := by
  obtain ⟨rests, hrests⟩ := exists_ways_eq h
  refine ⟨h, fun group text => ?_⟩
  simp only [hrests, List.map_map, List.forall₂_map_left_iff, List.forall₂_map_right_iff]
  exact List.forall₂_same.2 fun rest _ => ⟨rfl, reports_nil (by simp)⟩

theorem Judges.range (h : regex.groups = 0) (low high : Int) :
    Judges (.group regex) [(low, high)] fun text => (regex.ways 0 text).map fun way =>
      ([.number (text.take (text.length - way.2.length)) low high], way.2) := by
  obtain ⟨rests, hrests⟩ := exists_ways_eq h
  refine ⟨by rw [Regex.groups, h]; rfl, fun group text => ?_⟩
  simp only [Regex.ways, hrests, List.map_map, List.forall₂_map_left_iff,
    List.forall₂_map_right_iff]
  exact List.forall₂_same.2 fun rest _ => ⟨rfl, reports_number⟩

theorem Judges.seq (ha : Judges a bounds first) (hb : Judges b others second) :
    Judges (.seq a b) (bounds ++ others) fun text => (first text).flatMap fun way =>
      (second way.2).map fun next => (way.1 ++ next.1, next.2) := by
  refine ⟨by rw [Regex.groups, ha.groups, hb.groups, List.length_append], fun group text => ?_⟩
  rw [Regex.ways]
  refine List.rel_flatMap (ha.same group text) ?_
  rintro found way ⟨hrest, hreports⟩
  rw [List.forall₂_map_left_iff, List.forall₂_map_right_iff, hrest, ha.groups]
  refine (hb.same _ _).imp ?_
  rintro next step ⟨hnext, hreports'⟩
  exact ⟨hnext, hreports.append hreports'⟩

theorem Judges.alt (ha : Judges a bounds first) (hb : Judges b others second) :
    Judges (.alt a b) (bounds ++ others) fun text => first text ++ second text := by
  refine ⟨by rw [Regex.groups, ha.groups, hb.groups, List.length_append], fun group text => ?_⟩
  rw [Regex.ways, ha.groups]
  refine List.rel_append ((ha.same group text).imp ?_) ((hb.same _ text).imp ?_)
  · exact fun found way h => ⟨h.1, h.2.left⟩
  · exact fun found way h => ⟨h.1, h.2.right⟩

/-! ## Pieces -/

theorem partsRegexes?_ne_nil {parts : List (List Piece)} : partsRegexes? parts ≠ some [] := by
  intro h
  match parts with
  | [] =>
    rw [partsRegexes?] at h
    cases h
  | [part] =>
    rw [partsRegexes?] at h
    obtain ⟨_, _, ⟨⟩⟩ := Option.map_eq_some_iff.1 h
  | part :: other :: parts =>
    rw [partsRegexes?] at h
    · split at h <;> cases h
    · simp

/-- A piece that is no range and holds no patterns takes no number. -/
theorem Piece.judges_leaf (piece : Piece) (hrange : ∀ low high, piece ≠ .range low high)
    (heither : ∀ parts, piece ≠ .either parts) (h : piece.regex? = some regex) :
    Judges regex piece.bounds piece.ways := by
  have hways : piece.ways = fun text => (regex.ways 0 text).map fun way => ([], way.2) := by
    funext text
    rw [Piece.ways, h]
    · rfl
    · exact hrange
    · exact heither
  have hbounds : piece.bounds = [] := by
    rw [Piece.bounds]
    · exact hrange
    · exact heither
  have hgroups : regex.groups = 0 := by
    cases piece with
    | range low high => exact absurd rfl (hrange low high)
    | either parts => exact absurd rfl (heither parts)
    | bracket negated body =>
      rw [Piece.regex?] at h
      obtain ⟨set, -, rfl⟩ := Option.map_eq_some_iff.1 h
      rfl
    | char | one | star | anything | directories =>
      rw [Piece.regex?] at h
      cases h
      rfl
  rw [hbounds, hways]
  exact judges_of_groups hgroups

mutual

/-- The expression of a piece has the ways of the piece. -/
theorem Piece.judges (piece : Piece) {regex : Regex Char} (h : piece.regex? = some regex) :
    Judges regex piece.bounds piece.ways := by
  match piece with
  | .char _ | .one | .star | .anything | .directories | .bracket _ _ =>
    exact Piece.judges_leaf _ nofun nofun h
  | .range low high =>
    rw [Piece.regex?] at h
    cases h
    have hrange := Judges.range (rfl : signedDigits.groups = 0) low high
    have hways : (Piece.range low high).ways = fun text => (signedDigits.ways 0 text).map fun way =>
        ([.number (text.take (text.length - way.2.length)) low high], way.2) := by
      funext text
      rw [Piece.ways]
    rw [hways, Piece.bounds]
    exact hrange
  | .either parts =>
    rw [Piece.regex?] at h
    obtain ⟨list, hlist, rfl⟩ := Option.map_eq_some_iff.1 h
    have hways : (Piece.either parts).ways = partsWays parts := by
      funext text
      rw [Piece.ways]
    rw [hways, Piece.bounds]
    exact partsJudge parts hlist

theorem patternJudges (pattern : List Piece) {items : List (Regex Char)}
    (h : patternRegexes? pattern = some items) :
    Judges (.sequence items) (patternBounds pattern) (patternWays pattern) := by
  match pattern with
  | [] =>
    rw [patternRegexes?] at h
    cases h
    have hways : patternWays [] = fun text => [([], text)] := by
      funext text
      rw [patternWays]
    rw [hways, patternBounds]
    exact judges_of_groups rfl
  | piece :: pieces =>
    rw [patternRegexes?] at h
    split at h
    next items others hitems hothers =>
      cases h
      have hpiece := Piece.judges piece hitems
      have hpieces := patternJudges pieces hothers
      have hways : patternWays (piece :: pieces) = fun text =>
          (piece.ways text).flatMap fun way => (patternWays pieces way.2).map fun next =>
            (way.1 ++ next.1, next.2) := by
        funext text
        rw [patternWays]
      rw [hways, patternBounds]
      exact hpiece.seq hpieces
    · cases h

theorem partsJudge (parts : List (List Piece)) {list : List (Regex Char)}
    (h : partsRegexes? parts = some list) :
    Judges (.choice list) (partsBounds parts) (partsWays parts) := by
  match parts with
  | [] =>
    rw [partsRegexes?] at h
    cases h
    have hways : partsWays [] = fun text => [([], text)] := by
      funext text
      rw [partsWays]
    rw [hways, partsBounds]
    exact judges_of_groups rfl
  | [part] =>
    rw [partsRegexes?] at h
    obtain ⟨items, hitems, rfl⟩ := Option.map_eq_some_iff.1 h
    have hways : partsWays [part] = patternWays part := by
      funext text
      rw [partsWays]
    rw [hways, partsBounds, partsBounds, List.append_nil]
    exact patternJudges part hitems
  | part :: other :: parts =>
    rw [partsRegexes?] at h
    · split at h
      next items others hitems hothers =>
        cases h
        have hways : partsWays (part :: other :: parts) = fun text =>
            patternWays part text ++ partsWays (other :: parts) text := by
          funext text
          rw [partsWays]
          simp
        rw [hways, partsBounds, Regex.choice]
        · exact (patternJudges part hitems).alt (partsJudge (other :: parts) hothers)
        · rintro rfl
          exact partsRegexes?_ne_nil hothers
      · cases h
    · simp

end

/-! ## The first match -/

/-- What is found first in both lists is judged alike. -/
theorem find?_cases {list : List (Regex.Found Char (List Char))}
    {ways : List (List Step × List Char)}
    (h : List.Forall₂ (SameJudgement bounds group) list ways) :
    (list.find? (fun found => found.2.isEmpty) = none ∧
        ways.find? (fun way => way.2.isEmpty) = none) ∨
      ∃ found way, list.find? (fun found => found.2.isEmpty) = some found ∧
        ways.find? (fun way => way.2.isEmpty) = some way ∧
        SameJudgement bounds group found way := by
  induction h with
  | nil => exact .inl ⟨rfl, rfl⟩
  | @cons found way list ways hsame _ ih =>
    rw [List.find?_cons, List.find?_cons, hsame.1]
    cases way.2.isEmpty with
    | true => exact .inr ⟨found, way, rfl, rfl, hsame⟩
    | false => exact ih

/-- **A glob judges every number by the bounds of its own range.** -/
theorem Judges.isMatch_iff_find? (h : Judges regex bounds first) :
    Glob.isMatch ⟨regex, bounds⟩ path = true ↔
      ∃ way, (first path).find? (fun way => way.2.isEmpty) = some way ∧
        ∀ step ∈ way.1, step.Holds := by
  rw [isMatch_iff_accepts, Regex.captures?_eq]
  rcases find?_cases (h.same 0 path) with ⟨hfound, hway⟩ | ⟨found, way, hfound, hway, -, hreports⟩
  · simp [hfound, hway]
  · simp [hfound, hway, hreports.accepts]

end StyleCheck.Section
