import StyleCheck.Proofs.Regex.Avoiding
import StyleCheck.Proofs.Section.Reading
import StyleCheck.Proofs.Section.Source
import StyleCheck.Section.Glob

/-!
# Headers without a separator

A header without `/` gets `**/` in front, so that it is looked for in every directory. It should
then look at the name of a file only, whatever directory the file is in.

**Theorem (`isMatch_in_directory`).** This holds as far as no bracket set takes a separator and no
directory holds a line feed. A negated set takes a separator unless it lists it, and so does a range
that reaches past it, as in `a[!x]b` for the path `a/b`. Directories with a line feed are matched by
no `**/`. In all other directories a header matches the names that it matches alone, whatever its
sets are.

The expression of such a header is that of `**/` and then the rest. Its ways try what follows the
last separator first, then what follows an earlier one, and the whole path at last
(`captures?_directories`). What follows the last one is the name, and everything else holds a
separator. So a match of the name is found first, and nothing else is found if the rest avoids
separators (`Regex.Avoids`).

That it does is seen in the text of the header, because the characters of its pieces are
characters of the text (`Occurs.isWrittenIn`), while only a bracket set can take a character that is
not written.
-/

namespace StyleCheck.Section

variable {c : Char} {text rest directory name : List Char} {r : Regex Char}

/-! ## Directories in front -/

/-- The expression of `**/`. -/
def directoriesRegex : Regex Char :=
  .optional (.sequence [.many Regex.notLineFeed, .symbol '/'])

/-- What follows the separators of the first line, the last separator first. -/
def behindSeparators : List Char → List (List Char)
  | [] => []
  | c :: rest =>
    if c = '\n' then [] else behindSeparators rest ++ if c = '/' then [rest] else []

/-- Any start of the first line with a separator behind it. -/
theorem flatMap_afterBlocks (group : Nat) (text : List Char) :
    ((Regex.afterBlocks Regex.notLineFeed 1 text).flatMap fun rest =>
      (Regex.symbol '/').ways group rest) = (behindSeparators text).map ([], ·) := by
  induction text with
  | nil => rfl
  | cons c text ih =>
    by_cases hline : c = '\n'
    · have hblocks : Regex.afterBlocks Regex.notLineFeed 1 (c :: text) = [c :: text] :=
        Regex.Table.afterBlocks_of_not (by simp [Regex.notLineFeed, hline])
      rw [hblocks]
      simp [Regex.symbol, Regex.ways, behindSeparators, hline]
    · -- One character more is taken before all that is taken without it.
      have hset : Regex.notLineFeed c = true := bne_iff_ne.2 hline
      have hblocks : Regex.afterBlocks Regex.notLineFeed 1 (c :: text) =
          Regex.afterBlocks Regex.notLineFeed 1 text ++ [c :: text] := by
        refine Regex.Table.afterBlocks_of_le Nat.one_pos ?_
        simp [hset]
      rw [hblocks, List.flatMap_append, ih, behindSeparators, if_neg hline, List.map_append]
      by_cases hseparator : c = '/'
      · simp [Regex.symbol, Regex.ways, hseparator]
      · simp [Regex.symbol, Regex.ways, hseparator]

theorem ways_directoriesRegex (group : Nat) (text : List Char) :
    directoriesRegex.ways group text = (behindSeparators text ++ [text]).map ([], ·) := by
  rw [List.map_append, ← flatMap_afterBlocks group]
  simp [directoriesRegex, Regex.optional, Regex.sequence, Regex.many, Regex.ways, Regex.groups,
    List.flatMap_map]

/-- Matching behind directories is trying what follows the separators, the last one first, and then
the whole text. -/
theorem captures?_directories (r : Regex Char) (text : List Char) :
    (Regex.seq directoriesRegex r).captures? text =
      (behindSeparators text ++ [text]).findSome? r.captures? := by
  have hgroups : 0 + directoriesRegex.groups = 0 := rfl
  rw [Regex.captures?_eq, Regex.ways, ways_directoriesRegex, hgroups, List.flatMap_map,
    List.find?_flatMap, List.map_findSome?]
  congr 1
  funext rest
  simp [Regex.captures?_eq]

theorem behindSeparators_of_not_mem (h : '/' ∉ text) : behindSeparators text = [] := by
  induction text with
  | nil => rfl
  | cons c text ih =>
    rw [List.mem_cons, not_or] at h
    have hne : c ≠ '/' := Ne.symm h.1
    simp [behindSeparators, ih h.2, hne]

/-- Behind the last separator stands the name, unless the directory holds a line feed; behind any
other one there are further separators. -/
theorem behindSeparators_below (hname : '/' ∉ name) (directory : List Char) :
    ∃ others, (∀ rest ∈ others, '/' ∈ rest) ∧
      behindSeparators (directory ++ '/' :: name) =
        (if '\n' ∈ directory then [] else [name]) ++ others := by
  induction directory with
  | nil => exact ⟨[], by simp, by simp [behindSeparators, behindSeparators_of_not_mem hname]⟩
  | cons c directory ih =>
    obtain ⟨others, hothers, heq⟩ := ih
    by_cases hline : c = '\n'
    · exact ⟨[], by simp, by simp [behindSeparators, hline]⟩
    · -- A further separator is listed behind those that come later in the path.
      refine ⟨others ++ if c = '/' then [directory ++ '/' :: name] else [], ?_, ?_⟩
      · intro rest hrest
        rcases List.mem_append.1 hrest with hrest | hrest
        · exact hothers rest hrest
        · split at hrest
          · rw [List.mem_singleton.1 hrest]
            simp
          · cases hrest
      · have hcons : '\n' ∈ c :: directory ↔ '\n' ∈ directory := by
          simp [Ne.symm hline]
        simp [behindSeparators, hline, heq, hcons]

theorem captures?_name (hname : '/' ∉ name) :
    (Regex.seq directoriesRegex r).captures? name = r.captures? name := by
  rw [captures?_directories, behindSeparators_of_not_mem hname]
  exact List.findSome?_singleton

/-- What matches the name is tried first, so it is found behind any directory. -/
theorem captures?_below {captures : List (Regex.Capture Char)} (hname : '/' ∉ name)
    (hline : '\n' ∉ directory) (h : r.captures? name = some captures) :
    (Regex.seq directoriesRegex r).captures? (directory ++ '/' :: name) = some captures := by
  obtain ⟨others, -, heq⟩ := behindSeparators_below hname directory
  rw [captures?_directories, heq, if_neg hline]
  simp [h]

/-- An expression that avoids separators matches nothing but the name. -/
theorem captures?_below_of_avoids (hname : '/' ∉ name) (h : r.Avoids '/') :
    (Regex.seq directoriesRegex r).captures? (directory ++ '/' :: name) =
      if '\n' ∈ directory then none else r.captures? name := by
  obtain ⟨others, hothers, heq⟩ := behindSeparators_below hname directory
  have hnone : (others ++ [directory ++ '/' :: name]).findSome? r.captures? = none := by
    rw [List.findSome?_eq_none_iff]
    intro rest hrest
    apply h.captures?_eq_none
    rcases List.mem_append.1 hrest with hrest | hrest
    · exact hothers rest hrest
    · rw [List.mem_singleton.1 hrest]
      simp
  rw [captures?_directories, heq, List.append_assoc, List.findSome?_append, hnone, Option.or_none]
  by_cases hline : '\n' ∈ directory
  · rw [if_pos hline, if_pos hline]
    rfl
  · rw [if_neg hline, if_neg hline]
    exact List.findSome?_singleton

/-! ## Pieces -/

/-- The piece is one of the pieces of the pattern, or stands in a part of one. -/
inductive Occurs (piece : Piece) : List Piece → Prop
  | head {rest : List Piece} : Occurs piece (piece :: rest)
  | tail {first : Piece} {rest : List Piece} : Occurs piece rest → Occurs piece (first :: rest)
  | inside {parts : List (List Piece)} {part rest : List Piece} : part ∈ parts →
    Occurs piece part → Occurs piece (.either parts :: rest)

variable {piece : Piece} {pattern more : List Piece}

theorem occurs_append :
    Occurs piece (pattern ++ more) ↔ Occurs piece pattern ∨ Occurs piece more := by
  induction pattern with
  | nil =>
    constructor
    · exact .inr
    · intro h
      cases h with
      | inl h => cases h
      | inr h => exact h
  | cons first pattern ih =>
    constructor
    · intro h
      cases h with
      | head => exact .inl .head
      | tail h => exact (ih.1 h).imp_left .tail
      | inside hmem h => exact .inl (.inside hmem h)
    · rintro (h | h)
      · cases h with
        | head => exact .head
        | tail h => exact .tail (ih.2 (.inl h))
        | inside hmem h => exact .inside hmem h
      · exact .tail (ih.2 (.inr h))

/-- No word of the piece goes on in another directory: a bracket set does not list the separator, or
excludes it. -/
def Piece.StaysInName : Piece → Prop
  | .char c => c ≠ '/'
  | .anything | .directories => False
  | .bracket negated body => ∀ set, bracketSet? body = some set → set '/' = negated
  | .one | .star | .range _ _ | .either _ => True

mutual

/-- The expression of a piece avoids the separator if all that occurs in the piece stays in the
name. -/
theorem Piece.avoids (piece : Piece) (h : ∀ leaf, Occurs leaf [piece] → leaf.StaysInName)
    {regex : Regex Char} (hregex : piece.regex? = some regex) : regex.Avoids '/' := by
  have hpiece := h piece .head
  match piece with
  | .char c =>
    rw [Piece.regex?] at hregex
    cases hregex
    exact beq_eq_false_iff_ne.2 (Ne.symm hpiece)
  | .one =>
    rw [Piece.regex?] at hregex
    cases hregex
    rfl
  | .star =>
    rw [Piece.regex?] at hregex
    cases hregex
    rfl
  | .anything => cases hpiece
  | .directories => cases hpiece
  | .bracket negated body =>
    rw [Piece.regex?] at hregex
    obtain ⟨set, hset, rfl⟩ := Option.map_eq_some_iff.1 hregex
    exact bne_eq_false_iff_eq.2 (hpiece set hset)
  | .range low high =>
    rw [Piece.regex?] at hregex
    cases hregex
    exact ⟨⟨rfl, trivial⟩, ⟨rfl, rfl⟩, trivial⟩
  | .either parts =>
    rw [Piece.regex?] at hregex
    obtain ⟨items, hitems, rfl⟩ := Option.map_eq_some_iff.1 hregex
    refine Regex.avoids_choice (partsAvoid parts (fun part hpart leaf hleaf => ?_) hitems)
    exact h leaf (.inside hpart hleaf)

theorem patternAvoids (pattern : List Piece) (h : ∀ leaf, Occurs leaf pattern → leaf.StaysInName)
    {items : List (Regex Char)} (hitems : patternRegexes? pattern = some items) :
    ∀ regex ∈ items, regex.Avoids '/' := by
  match pattern with
  | [] =>
    rw [patternRegexes?] at hitems
    cases hitems
    exact List.forall_mem_nil _
  | piece :: pieces =>
    rw [patternRegexes?] at hitems
    split at hitems
    next first others hfirst hothers =>
      cases hitems
      refine List.forall_mem_cons.2 ⟨Piece.avoids piece (fun leaf hleaf => ?_) hfirst,
        patternAvoids pieces (fun leaf hleaf => h leaf (.tail hleaf)) hothers⟩
      exact h leaf (occurs_append.2 (.inl hleaf) : Occurs leaf ([piece] ++ pieces))
    · cases hitems

theorem partsAvoid (parts : List (List Piece))
    (h : ∀ part ∈ parts, ∀ leaf, Occurs leaf part → leaf.StaysInName)
    {items : List (Regex Char)} (hitems : partsRegexes? parts = some items) :
    ∀ regex ∈ items, regex.Avoids '/' := by
  match parts with
  | [] =>
    rw [partsRegexes?] at hitems
    cases hitems
    exact List.forall_mem_singleton.2 trivial
  | [part] =>
    rw [partsRegexes?] at hitems
    obtain ⟨regexes, hregexes, rfl⟩ := Option.map_eq_some_iff.1 hitems
    have hpart := patternAvoids part (h part List.mem_cons_self) hregexes
    exact List.forall_mem_singleton.2 (Regex.avoids_sequence hpart)
  | part :: other :: parts =>
    rw [partsRegexes?] at hitems
    · split at hitems
      next regexes others hregexes hothers =>
        cases hitems
        have hpart := patternAvoids part (h part List.mem_cons_self) hregexes
        refine List.forall_mem_cons.2 ⟨Regex.avoids_sequence hpart, ?_⟩
        exact partsAvoid (other :: parts)
          (fun part hmem => h part (List.mem_cons_of_mem _ hmem)) hothers
      · cases hitems
    · simp

end

/-! ## Pieces of a text -/

/-- What the text has to hold for the piece to be written in it. -/
def Piece.IsWrittenIn (text : List Char) : Piece → Prop
  | .char c => c ∈ text
  | .anything | .directories => ['*', '*'] <:+: text
  | .bracket _ _ | .one | .star | .range _ _ | .either _ => True

theorem Piece.IsWrittenIn.mono (h : piece.IsWrittenIn text) (hpart : text <:+: rest) :
    piece.IsWrittenIn rest := by
  cases piece with
  | char c => exact hpart.subset h
  | anything | directories => exact List.IsInfix.trans h hpart
  | bracket _ _ | one | star | range _ _ | either _ => trivial

theorem suffix_of_upToBracket? {body after : List Char}
    (h : upToBracket? text = some (body, after)) : after <:+ text := by
  induction text generalizing body with
  | nil => cases h
  | cons c text ih =>
    unfold upToBracket? at h
    by_cases hclose : c = ']'
    · rw [if_pos hclose] at h
      cases h
      exact List.suffix_cons c after
    · rw [if_neg hclose] at h
      by_cases hseparator : c = '/'
      · rw [if_pos hseparator] at h
        cases h
      · rw [if_neg hseparator] at h
        obtain ⟨found, hfound, heq⟩ := Option.map_eq_some_iff.1 h
        cases heq
        exact (ih hfound).trans (List.suffix_cons c text)

theorem suffix_of_bracket? {negated : Bool} {body after : List Char}
    (h : bracket? text = some (negated, body, after)) : after <:+ text := by
  unfold bracket? at h
  split at h
  next mark listed hmark =>
    have hlisted : listed <:+ text := by
      split at hmark <;> cases hmark
      · exact List.suffix_cons _ _
      · exact List.suffix_cons _ _
      · exact List.suffix_refl _
    split at h
    next rest =>
      obtain ⟨found, hfound, heq⟩ := Option.map_eq_some_iff.1 h
      cases heq
      exact ((suffix_of_upToBracket? hfound).trans (List.suffix_cons ']' rest)).trans hlisted
    · obtain ⟨found, hfound, heq⟩ := Option.map_eq_some_iff.1 h
      cases heq
      exact (suffix_of_upToBracket? hfound).trans hlisted

/-- What stands in a group is written for the group, or stands in its body, in a part or behind
it. -/
theorem occurs_group {body after : List Char} (hfound : braceBody? 0 rest = some (body, after))
    (h : Occurs piece (parse ('{' :: rest))) :
    Occurs piece (parse body) ∨ (∃ part ∈ parts 0 body, Occurs piece (parse part)) ∨
      Occurs piece (parse after) ∨ piece = .char '{' ∨ piece = .char '}' ∨
        (∃ low high, piece = .range low high) ∨ ∃ list, piece = .either list := by
  rw [parse_group hfound] at h
  rcases occurs_append.1 h with h | h
  · cases hrange : integers? body with
    | some pair =>
      rw [hrange] at h
      cases h with
      | head => simp
      | tail h => cases h
    | none =>
      rw [hrange] at h
      dsimp only at h
      by_cases hlength : (parts 0 body).length < 2
      · rw [if_pos hlength] at h
        rcases occurs_append.1 h with h | h
        · cases h with
          | head => simp
          | tail h => exact .inl h
        · cases h with
          | head => simp
          | tail h => cases h
      · rw [if_neg hlength] at h
        cases h with
        | head => simp
        | tail h => cases h
        | inside hmem h =>
          obtain ⟨part, hpart, rfl⟩ := List.mem_map.1 hmem
          exact .inr (.inl ⟨part, hpart, h⟩)
  · exact .inr (.inr (.inl h))

/-- What stands in a group is written in its braces. -/
theorem isWrittenIn_group {body after : List Char} (hfound : braceBody? 0 rest = some (body, after))
    (hbody : Occurs piece (parse body) → piece.IsWrittenIn body)
    (hparts : ∀ part ∈ parts 0 body, Occurs piece (parse part) → piece.IsWrittenIn part)
    (hafter : Occurs piece (parse after) → piece.IsWrittenIn after)
    (h : Occurs piece (parse ('{' :: rest))) : piece.IsWrittenIn ('{' :: rest) := by
  have hcases := occurs_group hfound h
  obtain ⟨rfl, hbalanced⟩ := braceBody?_eq_some_iff.1 hfound
  have hinner : body <:+: '{' :: (body ++ '}' :: after) := ⟨['{'], '}' :: after, by simp⟩
  rcases hcases with h | ⟨part, hpart, h⟩ | h | rfl | rfl | ⟨_, _, rfl⟩ | ⟨_, rfl⟩
  · exact (hbody h).mono hinner
  · obtain ⟨-, hlist, hjoin⟩ := (parts_eq_iff hbalanced).1 rfl
    obtain ⟨before, behind, heq, -⟩ := exists_around_part hlist hpart
    have hpartOf : part <:+: body := ⟨before, behind, by rw [← heq, hjoin]⟩
    exact (hparts part hpart h).mono (hpartOf.trans hinner)
  · exact (hafter h).mono ⟨'{' :: (body ++ ['}']), [], by simp⟩
  · exact List.mem_cons_self
  · simp [Piece.IsWrittenIn]
  · trivial
  · trivial

theorem head?_ne (h : ∀ more, rest = c :: more → False) : rest.head? ≠ some c := by
  intro heq
  obtain ⟨more, hmore⟩ := List.head?_eq_some_iff.1 heq
  exact h more hmore

/-- What stands in a pattern is written in its text. -/
theorem Occurs.isWrittenIn (h : Occurs piece (parse text)) : piece.IsWrittenIn text := by
  induction text using parse.induct with
  | case1 =>
    rw [parse_nil] at h
    cases h
  | case2 c rest ih =>
    rw [parse_escaped] at h
    cases h with
    | head => exact List.mem_cons_of_mem _ List.mem_cons_self
    | tail h => exact (ih h).mono ⟨['\\', c], [], by simp⟩
  | case3 rest ih =>
    rw [parse_directories] at h
    cases h with
    | head => exact ⟨[], '/' :: rest, rfl⟩
    | tail h => exact (ih h).mono ⟨['*', '*', '/'], [], by simp⟩
  | case4 rest hnext ih =>
    rw [parse_anything (head?_ne hnext)] at h
    cases h with
    | head => exact ⟨[], rest, rfl⟩
    | tail h => exact (ih h).mono ⟨['*', '*'], [], by simp⟩
  | case5 rest _ hnext ih =>
    rw [parse_star (head?_ne hnext)] at h
    cases h with
    | head => trivial
    | tail h => exact (ih h).mono (List.infix_cons (List.infix_refl rest))
  | case6 rest ih =>
    rw [parse_one] at h
    cases h with
    | head => trivial
    | tail h => exact (ih h).mono (List.infix_cons (List.infix_refl rest))
  | case7 rest negated body after hfound ih =>
    rw [parse_bracket hfound] at h
    cases h with
    | head => trivial
    | tail h => exact (ih h).mono (List.infix_cons (suffix_of_bracket? hfound).isInfix)
  | case8 rest hfound ih =>
    rw [parse_openBracket hfound] at h
    cases h with
    | head => exact List.mem_cons_self
    | tail h => exact (ih h).mono (List.infix_cons (List.infix_refl rest))
  | case9 rest body after hfound hbody hparts hafter =>
    exact isWrittenIn_group hfound hbody hparts hafter h
  | case10 rest hfound ih =>
    rw [parse_unbalanced hfound] at h
    cases h with
    | head => exact List.mem_cons_self
    | tail h => exact (ih h).mono (List.infix_cons (List.infix_refl rest))
  | case11 c rest hescape _ _ hstar hone hset hgroup ih =>
    rw [parse_char hstar hone hset hgroup (eq_nil_of_escape hescape)] at h
    cases h with
    | head => exact List.mem_cons_self
    | tail h => exact (ih h).mono (List.infix_cons (List.infix_refl rest))

/-! ## Headers -/

/-- No bracket set of the header takes a separator. -/
def SetsStayInName (header : List Char) : Prop :=
  ∀ negated body set, Occurs (.bracket negated body) (parse header) → bracketSet? body = some set →
    set '/' = negated

/-- A header without a separator, without `**` and with such sets stays in the name. -/
theorem Occurs.staysInName {header : List Char} (hslash : '/' ∉ header)
    (hstars : ¬ ['*', '*'] <:+: header) (hsets : SetsStayInName header)
    (h : Occurs piece (parse header)) : piece.StaysInName := by
  have hwritten := h.isWrittenIn
  cases piece with
  | char c =>
    intro heq
    exact hslash (heq ▸ hwritten)
  | anything | directories => exact absurd hwritten hstars
  | bracket negated body =>
    intro set hset
    exact hsets negated body set h hset
  | one | star | range _ _ | either _ => trivial

/-- The expression of a header without a separator. -/
theorem exists_regex_of_ofHeader? {header : List Char} {glob : Glob}
    (hglob : Glob.ofHeader? header = some glob) (hslash : '/' ∉ header) :
    ∃ items, patternRegexes? (parse header) = some items ∧
      glob.regex = .seq directoriesRegex (.sequence items) := by
  unfold Glob.ofHeader? ofHeader at hglob
  rw [if_neg hslash, parse_directories] at hglob
  obtain ⟨regex, hregex, rfl⟩ := Option.map_eq_some_iff.1 hglob
  rw [ofSource?_source, patternRegexes?, Piece.regex?] at hregex
  cases hitems : patternRegexes? (parse header) with
  | none => simp [hitems] at hregex
  | some items =>
    simp only [hitems, Option.map_some, Option.some.injEq] at hregex
    exact ⟨items, rfl, hregex.symm⟩

theorem isMatch_congr {glob : Glob} {path other : List Char}
    (h : glob.regex.captures? path = glob.regex.captures? other) :
    glob.isMatch path = glob.isMatch other := by
  simp only [Glob.isMatch, h]

theorem isMatch_of_captures?_eq_none {glob : Glob} {path : List Char}
    (h : glob.regex.captures? path = none) : glob.isMatch path = false := by
  simp only [Glob.isMatch, h]

/-- **A header without a separator looks only at the name**, as far as no bracket set takes a
separator and no directory holds a line feed. A path below a directory that holds one is matched by
no such header, and behind any other directory a header still matches the names that it matches
alone. -/
theorem isMatch_in_directory (header : List Char) (glob : Glob)
    (hglob : Glob.ofHeader? header = some glob) (hslash : '/' ∉ header)
    (hstars : ¬ ['*', '*'] <:+: header) (directory name : List Char) (hname : '/' ∉ name) :
    ('\n' ∉ directory → glob.isMatch name = true →
      glob.isMatch (directory ++ '/' :: name) = true) ∧
    (SetsStayInName header →
      glob.isMatch (directory ++ '/' :: name) =
        (!decide ('\n' ∈ directory) && glob.isMatch name)) := by
  obtain ⟨items, hitems, hregex⟩ := exists_regex_of_ofHeader? hglob hslash
  have halone : glob.regex.captures? name = (Regex.sequence items).captures? name := by
    rw [hregex, captures?_name hname]
  constructor
  · intro hline hmatch
    cases hcaptures : (Regex.sequence items).captures? name with
    | none =>
      rw [isMatch_of_captures?_eq_none (halone.trans hcaptures)] at hmatch
      cases hmatch
    | some captures =>
      rw [← hmatch]
      apply isMatch_congr
      rw [halone, hcaptures, hregex]
      exact captures?_below hname hline hcaptures
  · intro hsets
    -- Without sets that hold a separator the expression cannot reach into the directory.
    have havoids : (Regex.sequence items).Avoids '/' := Regex.avoids_sequence
      (patternAvoids _ (fun leaf hleaf => hleaf.staysInName hslash hstars hsets) hitems)
    have hbelow : glob.regex.captures? (directory ++ '/' :: name) =
        if '\n' ∈ directory then none else (Regex.sequence items).captures? name := by
      rw [hregex]
      exact captures?_below_of_avoids hname havoids
    by_cases hline : '\n' ∈ directory
    · rw [if_pos hline] at hbelow
      simp [isMatch_of_captures?_eq_none hbelow, hline]
    · rw [if_neg hline, ← halone] at hbelow
      simp [isMatch_congr hbelow, hline]

theorem setsStayInName_letters : SetsStayInName "[a-c]?".toList := by
  have hfound : bracket? "a-c]?".toList = some (false, "a-c".toList, ['?']) := by decide
  have hparse : parse "[a-c]?".toList = [.bracket false "a-c".toList, .one] := by
    rw [show "[a-c]?".toList = '[' :: "a-c]?".toList from rfl, parse_bracket hfound, parse_one,
      parse_nil]
  have hlisted : (bracketSet? "a-c".toList).any (fun set => set '/') = false := by decide +kernel
  intro negated body set h hset
  rw [hparse] at h
  cases h with
  | head =>
    rw [hset] at hlisted
    exact hlisted
  | tail h =>
    cases h with
    | tail h => cases h

theorem isMatch_in_directory_letters :
    ∃ glob, Glob.ofHeader? "[a-c]?".toList = some glob ∧ '/' ∉ "[a-c]?".toList ∧
      ¬ ['*', '*'] <:+: "[a-c]?".toList ∧ '/' ∉ "b1".toList ∧ SetsStayInName "[a-c]?".toList ∧
      glob.isMatch "b1".toList = true ∧
      glob.isMatch ("src/lib".toList ++ '/' :: "b1".toList) = true ∧
      glob.isMatch ("a\nb".toList ++ '/' :: "b1".toList) = false := by
  have hmatch : (Glob.ofHeader? "[a-c]?".toList).any (·.isMatch "b1".toList) = true := by
    decide +kernel
  have hslash : '/' ∉ "[a-c]?".toList := by decide
  have hstars : ¬ ['*', '*'] <:+: "[a-c]?".toList := by decide
  have hname : '/' ∉ "b1".toList := by decide
  cases hglob : Glob.ofHeader? "[a-c]?".toList with
  | none =>
    rw [hglob] at hmatch
    cases hmatch
  | some glob =>
    rw [hglob] at hmatch
    have hbelow := fun directory =>
      isMatch_in_directory _ glob hglob hslash hstars directory _ hname
    refine ⟨glob, rfl, hslash, hstars, hname, setsStayInName_letters, hmatch, ?_, ?_⟩
    · exact (hbelow "src/lib".toList).1 (by decide) hmatch
    · rw [(hbelow "a\nb".toList).2 setsStayInName_letters]
      rfl

/-- A negated set takes any character that it does not list, a range may reach past the separator,
and `**/` does not go past a line feed. -/
theorem not_isMatch_in_directory :
    (Glob.ofHeader? "a[!x]b".toList).map
        (fun glob => (glob.isMatch "a/b".toList, glob.isMatch "b".toList)) = some (true, false) ∧
    (Glob.ofHeader? "a[+-9]b".toList).map
        (fun glob => (glob.isMatch "a/b".toList, glob.isMatch "b".toList)) = some (true, false) ∧
    (Glob.ofHeader? "*".toList).map
        (fun glob => (glob.isMatch "a\nb/c".toList, glob.isMatch "c".toList)) =
      some (false, true) :=
  ⟨by decide +kernel, by decide +kernel, by decide +kernel⟩

end StyleCheck.Section
