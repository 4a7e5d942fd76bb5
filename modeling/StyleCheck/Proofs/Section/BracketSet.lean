import StyleCheck.Proofs.Section.Basename

/-!
# Headers that are one bracket set

A header `[b]` is for the names of one character that is listed in `b`, and `[!b]` is for those of
one character that is not. Whatever a character means in the sets of regular expressions, in the
header it should be itself.

**Theorem (`ofHeader?_setHeader`).** This holds of every list of characters without angle brackets.
A header that lists `<` or `>` is invalid, so that its section applies to no file at all.

In the expression of a set every punctuation character has a backslash in front of it. This makes
all of them literal but the angle brackets (`isEscapable_eq`), for which it means something else. A
list without these is read as the characters that it was written for (`mapM_setItem?`), and without
hyphens each of them stands for itself (`set?_symbols`).
-/

namespace StyleCheck.Section

/-- With a backslash in front of it the character is the start or the end of a word. -/
def isAngle (c : Char) : Bool := c == '<' || c == '>'

/-- The header that is a bracket set. -/
def setHeader (negated : Bool) (body : List Char) : List Char :=
  '[' :: ((if negated then ['!'] else []) ++ (body ++ [']']))

variable {c : Char} {body rest : List Char} {negated : Bool}

/-! ## What is listed -/

theorem lt_of_isPunctuation (h : isPunctuation c = true) : c.toNat < 128 := by
  have hval : c.toNat = c.val.toNat := rfl
  simp [isPunctuation, Char.le_def, UInt32.le_iff_toNat_le] at h
  omega

/-- All punctuation but the angle brackets can be escaped. -/
theorem isEscapable_eq (h : isPunctuation c = true) : Regex.isEscapable c = !isAngle c := by
  have hascii : ∀ n < 128, isPunctuation (Char.ofNat n) = true →
      Regex.isEscapable (Char.ofNat n) = !isAngle (Char.ofNat n) := by
    decide +kernel
  have hc := hascii c.toNat (lt_of_isPunctuation h)
  rw [Char.ofNat_toNat] at hc
  exact hc h

theorem isPunctuation_of_isAngle (h : isAngle c = true) : isPunctuation c = true := by
  rcases Bool.or_eq_true_iff.1 h with h | h <;> rw [beq_iff_eq.1 h] <;> rfl

/-- What a character other than a hyphen is written for. -/
theorem setItem?_eq (h : c ≠ '-') :
    setItem? c = if isAngle c then none else some (.symbol c) := by
  unfold setItem?
  rw [if_neg h]
  cases hpunctuation : isPunctuation c with
  | true => simp [isEscapable_eq hpunctuation]
  | false =>
    have hangle : isAngle c = false := by
      rw [Bool.eq_false_iff]
      intro hangle
      rw [isPunctuation_of_isAngle hangle] at hpunctuation
      cases hpunctuation
    simp [hangle]

theorem mapM_setItem? (h : '-' ∉ body) :
    body.mapM setItem? = if body.any isAngle then none else some (body.map .symbol) := by
  induction body with
  | nil => rfl
  | cons c body ih =>
    rw [List.mem_cons, not_or] at h
    rw [List.mapM_cons, setItem?_eq (Ne.symm h.1), ih h.2, List.any_cons]
    cases isAngle c <;> cases body.any isAngle <;> rfl

theorem any_isAngle_iff : body.any isAngle = true ↔ '<' ∈ body ∨ '>' ∈ body := by
  simp only [List.any_eq_true, isAngle, Bool.or_eq_true, beq_iff_eq]
  constructor
  · rintro ⟨c, hc, rfl | rfl⟩
    · exact .inl hc
    · exact .inr hc
  · rintro (h | h)
    · exact ⟨_, h, .inl rfl⟩
    · exact ⟨_, h, .inr rfl⟩

theorem lists?_symbols (body : List Char) :
    Regex.CharSet.lists? (body.map .symbol) = some [body.map fun c => (c, c)] := by
  induction body with
  | nil => rfl
  | cons c body ih =>
    rw [List.map_cons, Regex.CharSet.lists?, ih]
    · rfl
    · cases body <;> simp

/-- Characters without hyphens between them stand for themselves. -/
theorem set?_symbols (body : List Char) :
    Regex.CharSet.set? (body.map .symbol) = some fun c => body.contains c := by
  have htake : (body.map Regex.CharSet.Item.symbol).takeWhile (· == .hyphen) = [] := by
    cases body <;> rfl
  have hdrop : (body.map Regex.CharSet.Item.symbol).dropWhile (· == .hyphen) =
      body.map .symbol := by
    cases body <;> rfl
  unfold Regex.CharSet.set?
  rw [htake, hdrop, lists?_symbols]
  simp only [List.isEmpty_nil, if_true, Option.map_some, List.any_nil, Bool.not_false,
    Bool.and_true, List.any_map, Function.comp_def, contains_single, List.contains_eq_any_beq]

/-- The characters that such a bracket set lists. -/
theorem bracketSet?_eq (hne : body ≠ []) (h : '-' ∉ body) :
    bracketSet? body =
      if body.any isAngle then none else some fun c => body.contains c := by
  obtain ⟨c, others, hcons⟩ := List.exists_cons_of_ne_nil hne
  unfold bracketSet?
  rw [mapM_setItem? h, ← set?_symbols body]
  cases body.any isAngle with
  | true => rfl
  | false =>
    rw [hcons]
    rfl

/-! ## The header -/

theorem upToBracket?_append (hclose : ']' ∉ body) (hslash : '/' ∉ body) :
    upToBracket? (body ++ ']' :: rest) = some (body, rest) := by
  induction body with
  | nil => rfl
  | cons c body ih =>
    rw [List.mem_cons, not_or] at hclose hslash
    rw [List.cons_append, upToBracket?, if_neg (Ne.symm hclose.1), if_neg (Ne.symm hslash.1),
      ih hclose.2 hslash.2]
    rfl

theorem bracket?_bang (h : rest.head? ≠ some ']') :
    bracket? ('!' :: rest) = (upToBracket? rest).map fun (body, after) => (true, body, after) := by
  cases rest with
  | nil => rfl
  | cons c rest =>
    simp only [List.head?_cons, ne_eq, Option.some.injEq] at h
    simp [bracket?, h]

theorem bracket?_unmarked (hbang : rest.head? ≠ some '!') (hcaret : rest.head? ≠ some '^')
    (h : rest.head? ≠ some ']') :
    bracket? rest = (upToBracket? rest).map fun (body, after) => (false, body, after) := by
  cases rest with
  | nil => rfl
  | cons c rest =>
    simp only [List.head?_cons, ne_eq, Option.some.injEq] at hbang hcaret h
    simp [bracket?, hbang, hcaret, h]

/-- A header `[b]` or `[!b]` is read as the set of `b`. -/
theorem bracket?_append (hne : body ≠ [])
    (hmark : body.head? ≠ some '!' ∧ body.head? ≠ some '^') (hclose : ']' ∉ body)
    (hslash : '/' ∉ body) :
    bracket? ((if negated then ['!'] else []) ++ (body ++ ']' :: rest)) =
      some (negated, body, rest) := by
  have hlisted : upToBracket? (body ++ ']' :: rest) = some (body, rest) :=
    upToBracket?_append hclose hslash
  have hhead : (body ++ ']' :: rest).head? = body.head? := List.head?_append_of_ne_nil _ hne
  have hfirst : (body ++ ']' :: rest).head? ≠ some ']' := by
    rw [hhead]
    exact fun heq => hclose (List.mem_of_head? heq)
  cases negated with
  | true =>
    refine (bracket?_bang hfirst).trans ?_
    rw [hlisted]
    rfl
  | false =>
    rw [← hhead] at hmark
    refine (bracket?_unmarked hmark.1 hmark.2 hfirst).trans ?_
    rw [hlisted]
    rfl

/-- The pattern of such a header, in every directory. -/
theorem ofHeader_setHeader (hne : body ≠ [])
    (hmark : body.head? ≠ some '!' ∧ body.head? ≠ some '^') (hclose : ']' ∉ body)
    (hslash : '/' ∉ body) :
    ofHeader (setHeader negated body) = [.directories, .bracket negated body] := by
  have hheader : '/' ∉ setHeader negated body := by
    cases negated <;> simp [setHeader, hslash]
  unfold ofHeader
  rw [if_neg hheader, parse_directories, setHeader,
    parse_bracket (bracket?_append hne hmark hclose hslash), parse_nil]

/-- Such a header is valid if its set is, and is matched by the expression of the set. -/
theorem ofHeader?_eq (hpattern : ofHeader rest = [.directories, .bracket negated body]) :
    Glob.ofHeader? rest = (bracketSet? body).map fun set =>
      ⟨.seq directoriesRegex (.sequence [.one fun c => set c != negated]), []⟩ := by
  unfold Glob.ofHeader?
  simp only [hpattern, ofSource?_source, patternRegexes?, Piece.regex?]
  cases bracketSet? body <;> rfl

theorem isSome_captures?_one {set : Char → Bool} {name : List Char} :
    ((Regex.sequence [.one set]).captures? name).isSome = true ↔
      ∃ c, name = [c] ∧ set c = true := by
  rw [Regex.isSome_captures?_iff]
  constructor
  · rintro ⟨middle, ⟨c, hc, rfl⟩, hmiddle⟩
    exact ⟨c, congrArg _ hmiddle.symm, hc⟩
  · rintro ⟨c, rfl, hc⟩
    exact ⟨[], ⟨c, hc, rfl⟩, rfl⟩

theorem isMatch_of_bounds_eq_nil {glob : Glob} {name : List Char} (h : glob.bounds = []) :
    glob.isMatch name = (glob.regex.captures? name).isSome := by
  unfold Glob.isMatch
  rw [h]
  cases glob.regex.captures? name <;> rfl

/-- **A bracket set is for the characters that it lists**, or for all others, but is invalid if it
lists an angle bracket. -/
theorem ofHeader?_setHeader (body : List Char) (negated : Bool) (hne : body ≠ [])
    (hmark : body.head? ≠ some '!' ∧ body.head? ≠ some '^')
    (hplain : '-' ∉ body ∧ '/' ∉ body ∧ ']' ∉ body) :
    (Glob.ofHeader? (setHeader negated body) = none ↔ '<' ∈ body ∨ '>' ∈ body) ∧
      ∀ glob, Glob.ofHeader? (setHeader negated body) = some glob →
        ∀ name, '/' ∉ name →
          (glob.isMatch name = true ↔ ∃ c, name = [c] ∧ (c ∈ body ↔ negated = false)) := by
  obtain ⟨hhyphen, hslash, hclose⟩ := hplain
  rw [ofHeader?_eq (ofHeader_setHeader hne hmark hclose hslash), bracketSet?_eq hne hhyphen,
    ← any_isAngle_iff]
  cases body.any isAngle with
  | true => exact ⟨iff_of_true rfl rfl, nofun⟩
  | false =>
    refine ⟨iff_of_false nofun Bool.false_ne_true, fun glob hglob name hname => ?_⟩
    cases hglob
    rw [isMatch_of_bounds_eq_nil rfl, captures?_name hname, isSome_captures?_one]
    cases negated <;> simp

/-- Characters that mean something in the sets of regular expressions. -/
theorem ofHeader?_setHeader_meta :
    let body := "[&&~~\\\\^é".toList
    body ≠ [] ∧ (body.head? ≠ some '!' ∧ body.head? ≠ some '^') ∧
      ('-' ∉ body ∧ '/' ∉ body ∧ ']' ∉ body) ∧ ¬ ('<' ∈ body ∨ '>' ∈ body) ∧
      ∃ glob, Glob.ofHeader? (setHeader true body) = some glob ∧
        glob.isMatch ['a'] = true ∧ glob.isMatch ['^'] = false := by
  intro body
  have hne : body ≠ [] := by decide
  have hmark : body.head? ≠ some '!' ∧ body.head? ≠ some '^' := by decide
  have hplain : '-' ∉ body ∧ '/' ∉ body ∧ ']' ∉ body := by decide
  have hangle : ¬ ('<' ∈ body ∨ '>' ∈ body) := by decide
  obtain ⟨hinvalid, hmatch⟩ := ofHeader?_setHeader body true hne hmark hplain
  refine ⟨hne, hmark, hplain, hangle, ?_⟩
  cases hglob : Glob.ofHeader? (setHeader true body) with
  | none => exact absurd (hinvalid.1 hglob) hangle
  | some glob =>
    refine ⟨glob, rfl, ?_, Bool.eq_false_iff.2 fun heq => ?_⟩
    · exact (hmatch glob hglob ['a'] (by decide)).2 ⟨'a', rfl, by decide⟩
    · obtain ⟨c, hc, hlisted⟩ := (hmatch glob hglob ['^'] (by decide)).1 heq
      cases hc
      revert hlisted
      decide

/-- A set that lists an angle bracket is invalid, negated or not. -/
theorem ofHeader?_angle :
    Glob.ofHeader? "[<]".toList = none ∧ Glob.ofHeader? "[!<]".toList = none ∧
      Glob.ofHeader? "[a>]".toList = none :=
  ⟨by decide +kernel, by decide +kernel, by decide +kernel⟩

end StyleCheck.Section
