import StyleCheck.Proofs.Section.Listing
import StyleCheck.Proofs.Section.Reading

/-!
# Compiled patterns match what they stand for

**Theorem (`isMatch_iff_denotes`).** A header whose opening brackets are all escaped, and none of
whose brace groups is a range of integers, gives a glob, and the glob matches a path without line
feeds exactly when the anchored header stands for the path.

The anchored header is read into pieces, and the text of their expression is read back as the
expressions of the pieces (`ofSource?_source`). What is carried through the reading of the header
is `Compiles pattern language`: the pieces have expressions, and these list the readings of the
language among the texts without line feeds. A group holds patterns again, so the induction is on
the length of the text, and a part of a text keeps the condition on the header because it starts
outside of escapes (`BracketsEscaped.slice`). Without ranges every reading holds (`Reads.holds`), so
that a way to read the path is all that a match needs.
-/

namespace StyleCheck.Section

variable {c : Char} {text rest body before part after word : List Char} {way : List Step}
  {piece : Piece} {pattern more : Pattern} {first second language : Language} {a b : Regex Char}

/-! ## Pieces in a row -/

/-- The piece has an expression that lists the language. -/
def Piece.Compiles (piece : Piece) (language : Language) : Prop :=
  ∃ regex, piece.regex? = some regex ∧ Enumerates regex piece.bounds language

/-- The pattern has expressions that list the language. -/
def Compiles (pattern : Pattern) (language : Language) : Prop :=
  ∃ items, patternRegexes? pattern = some items ∧
    Enumerates (.sequence items) (patternBounds pattern) language

theorem Compiles.congr (h : Compiles pattern first)
    (hsame : ∀ word way, second word way ↔ first word way) : Compiles pattern second := by
  obtain ⟨items, hitems, hways⟩ := h
  exact ⟨items, hitems, hways.congr fun word way _ => hsame word way⟩

theorem compiles_nil : Compiles [] fun word way => word = [] ∧ way = [] := by
  refine ⟨[], by rw [patternRegexes?], ?_⟩
  rw [patternBounds]
  exact enumerates_empty

theorem Piece.Compiles.cons (hpiece : piece.Compiles first)
    (h : Section.Compiles pattern second) :
    Section.Compiles (piece :: pattern) (Then first second) := by
  obtain ⟨a, ha, hfirst⟩ := hpiece
  obtain ⟨items, hitems, hsecond⟩ := h
  refine ⟨a :: items, by rw [patternRegexes?, ha, hitems], ?_⟩
  rw [patternBounds]
  exact hfirst.seq hsecond

theorem Piece.Compiles.single (h : piece.Compiles language) :
    Section.Compiles [piece] language := by
  refine (h.cons compiles_nil).congr fun word way => ?_
  constructor
  · intro hword
    exact ⟨word, [], way, [], by simp, by simp, hword, rfl, rfl⟩
  · rintro ⟨front, _, steps, _, rfl, rfl, hfront, rfl, rfl⟩
    rw [List.append_nil, List.append_nil]
    exact hfront

theorem patternRegexes?_append {items others : List (Regex Char)}
    (h : patternRegexes? pattern = some items) (h' : patternRegexes? more = some others) :
    patternRegexes? (pattern ++ more) = some (items ++ others) := by
  induction pattern generalizing items with
  | nil =>
    rw [patternRegexes?] at h
    cases h
    exact h'
  | cons piece pattern ih =>
    rw [patternRegexes?] at h
    rw [List.cons_append, patternRegexes?]
    cases hfirst : piece.regex? with
    | none => simp [hfirst] at h
    | some a =>
      cases hothers : patternRegexes? pattern with
      | none => simp [hfirst, hothers] at h
      | some rest =>
        simp only [hfirst, hothers, Option.some.injEq] at h
        rw [← h, ih hothers]
        rfl

theorem patternBounds_append (pattern more : Pattern) :
    patternBounds (pattern ++ more) = patternBounds pattern ++ patternBounds more := by
  induction pattern with
  | nil => rw [patternBounds]; rfl
  | cons piece pattern ih =>
    rw [List.cons_append, patternBounds, patternBounds, ih, List.append_assoc]

theorem Compiles.append (h : Compiles pattern first) (h' : Compiles more second) :
    Compiles (pattern ++ more) (Then first second) := by
  obtain ⟨items, hitems, hfirst⟩ := h
  obtain ⟨others, hothers, hsecond⟩ := h'
  refine ⟨items ++ others, patternRegexes?_append hitems hothers, ?_⟩
  rw [patternBounds_append]
  exact (hfirst.seq hsecond).of_ways (Regex.groups_sequence_append items others)
    (Regex.ways_sequence_append items others)

/-! ## Languages of pieces -/

theorem Piece.compiles_of_bounds (hregex : piece.regex? = some a) (hbounds : piece.bounds = [])
    (h : Enumerates a [] language) : piece.Compiles language :=
  ⟨a, hregex, by rw [hbounds]; exact h⟩

theorem compiles_char (c : Char) : (Piece.char c).Compiles (Literal c) :=
  Piece.compiles_of_bounds (by rw [Piece.regex?]) (by simp [Piece.bounds]) (enumerates_symbol c)

theorem compiles_one :
    Piece.one.Compiles fun front steps => ∃ c, c ≠ '/' ∧ Literal c front steps := by
  refine Piece.compiles_of_bounds (by rw [Piece.regex?]) (by simp [Piece.bounds]) ?_
  simpa [notSeparator] using enumerates_one notSeparator

theorem compiles_star : Piece.star.Compiles (Stretch fun front => '/' ∉ front) := by
  refine Piece.compiles_of_bounds (by rw [Piece.regex?]) (by simp [Piece.bounds]) ?_
  refine (enumerates_many notSeparator).congr fun word way _ => and_congr_left fun _ => ?_
  constructor
  · intro hnot c hc
    exact bne_iff_ne.2 fun heq => hnot (heq ▸ hc)
  · intro hword hmem
    exact absurd rfl (bne_iff_ne.1 (hword '/' hmem))

/-- A text without line feeds is a text of anything. -/
theorem notLineFeed_of_mem (hline : '\n' ∉ word) : ∀ c ∈ word, Regex.notLineFeed c = true :=
  fun _ hc => bne_iff_ne.2 fun heq => hline (heq ▸ hc)

theorem compiles_anything : Piece.anything.Compiles (Stretch fun _ => True) := by
  refine Piece.compiles_of_bounds (by rw [Piece.regex?]) (by simp [Piece.bounds]) ?_
  refine (enumerates_many Regex.notLineFeed).congr fun word way hline => ?_
  exact and_congr_left fun _ => iff_of_true trivial (notLineFeed_of_mem hline)

/-! ### Directories -/

/-- The choices of the expression for directories: whether to take any, and how many characters
before the last `/`. -/
def DirectoryChoices : Language := fun word way =>
  (∃ names, word = names ++ ['/'] ∧ way = [.branch 0, .stretch names.length]) ∨
    word = [] ∧ way = [.branch 1]

theorem longestFirst_directoryChoices : LongestFirst DirectoryChoices := by
  rintro front back way front' back' other - hfront hfront' hbefore
  rcases hfront with ⟨names, rfl, rfl⟩ | ⟨rfl, rfl⟩ <;>
    rcases hfront' with ⟨names', rfl, rfl⟩ | ⟨rfl, rfl⟩ <;>
    simp [before_cons] at hbefore ⊢
  exact hbefore

theorem enumerates_directoryChoices :
    Enumerates (.optional (.sequence [.many Regex.notLineFeed, .symbol '/'])) []
      DirectoryChoices := by
  have hnames := (enumerates_many Regex.notLineFeed).seq
    ((enumerates_symbol '/').seq enumerates_empty)
  refine hnames.optional.congr fun word way hline => or_congr_left ?_
  constructor
  · rintro ⟨names, rfl, rfl⟩
    rw [List.mem_append, not_or] at hline
    exact ⟨_, rfl, names, ['/'], [.stretch names.length], [], rfl, rfl,
      ⟨notLineFeed_of_mem hline.1, rfl⟩, ['/'], [], [], [], rfl, rfl, ⟨rfl, rfl⟩, rfl, rfl⟩
  · rintro ⟨_, rfl, names, _, _, _, rfl, rfl, ⟨-, rfl⟩, _, _, _, _, rfl, rfl, ⟨rfl, rfl⟩, rfl, rfl⟩
    exact ⟨names, rfl, rfl⟩

theorem compiles_directories :
    Piece.directories.Compiles (Stretch fun front => front = [] ∨ front.getLast? = some '/') := by
  refine Piece.compiles_of_bounds (by rw [Piece.regex?]) (by simp [Piece.bounds]) ?_
  have hways := enumerates_directoryChoices.stretch longestFirst_directoryChoices
  refine hways.congr fun word way _ => and_congr_left fun _ => ?_
  constructor
  · rintro (rfl | hlast)
    · exact ⟨_, .inr ⟨rfl, rfl⟩⟩
    · obtain ⟨names, rfl⟩ := List.getLast?_eq_some_iff.1 hlast
      exact ⟨_, .inl ⟨names, rfl, rfl⟩⟩
  · rintro ⟨_, ⟨names, rfl, -⟩ | ⟨rfl, -⟩⟩
    · exact .inr (by simp)
    · exact .inl rfl

/-! ### Ranges -/

/-- The choices of the expression for a numeral: whether to take a sign, and how many digits after
the first one. -/
def NumeralChoices : Language := fun word way =>
  ∃ sign c digits, word = sign ++ c :: digits ∧ (∀ d ∈ c :: digits, '0' ≤ d ∧ d ≤ '9') ∧
    ((sign = ['+'] ∨ sign = ['-']) ∧ way = [.branch 0, .stretch digits.length] ∨
      sign = [] ∧ way = [.branch 1, .stretch digits.length])

theorem longestFirst_numeralChoices : LongestFirst NumeralChoices := by
  rintro front back way front' back' other heq ⟨sign, c, digits, rfl, -, hsign⟩
    ⟨sign', c', digits', rfl, hdigits', hsign'⟩ hbefore
  rcases hsign with ⟨hsign, rfl⟩ | ⟨rfl, rfl⟩ <;> rcases hsign' with ⟨hsign', rfl⟩ | ⟨rfl, rfl⟩
  · have hlt : digits'.length < digits.length := by simpa [before_cons] using hbefore
    rcases hsign with rfl | rfl <;> rcases hsign' with rfl | rfl <;> simpa using hlt
  · -- A text that starts with a sign does not start with a digit.
    have hdigit := hdigits' c' List.mem_cons_self
    rcases hsign with rfl | rfl <;>
    · obtain ⟨rfl, -⟩ := List.cons.inj heq
      exact absurd hdigit (by decide)
  · simp [before_cons] at hbefore
  · simpa [before_cons] using hbefore

theorem enumerates_numeralChoices : Enumerates signedDigits [] NumeralChoices := by
  have hsign := (enumerates_one fun c => c == '+' || c == '-').optional
  have hdigits := (enumerates_one fun c => '0' ≤ c && c ≤ '9').seq
    (enumerates_many fun c => '0' ≤ c && c ≤ '9')
  refine (hsign.seq (hdigits.seq enumerates_empty)).congr fun word way _ => ?_
  simp only [Bool.and_eq_true, decide_eq_true_eq, Bool.or_eq_true, beq_iff_eq]
  constructor
  · rintro ⟨sign, c, digits, rfl, hall, hsteps⟩
    have hrest : Then (Then (fun word way => ∃ c, ('0' ≤ c ∧ c ≤ '9') ∧ Literal c word way)
        (Stretch fun word => ∀ c ∈ word, '0' ≤ c ∧ c ≤ '9')) (fun word way => word = [] ∧ way = [])
        (c :: digits) [.stretch digits.length] := by
      refine ⟨c :: digits, [], [.stretch digits.length], [], by simp, rfl, ?_, rfl, rfl⟩
      exact ⟨[c], digits, [], _, rfl, rfl, ⟨c, hall c List.mem_cons_self, rfl, rfl⟩,
        fun d hd => hall d (List.mem_cons_of_mem _ hd), rfl⟩
    rcases hsteps with ⟨hsign, rfl⟩ | ⟨rfl, rfl⟩
    · refine ⟨sign, c :: digits, [.branch 0], _, rfl, rfl, .inl ⟨[], rfl, ?_⟩, hrest⟩
      rcases hsign with rfl | rfl
      · exact ⟨'+', .inl rfl, rfl, rfl⟩
      · exact ⟨'-', .inr rfl, rfl, rfl⟩
    · exact ⟨[], c :: digits, [.branch 1], _, rfl, rfl, .inr ⟨rfl, rfl⟩, hrest⟩
  · rintro ⟨sign, _, _, _, rfl, rfl, hsign, _, _, _, _, rfl, rfl,
      ⟨_, digits, _, _, rfl, rfl, ⟨c, hc, rfl, rfl⟩, hdigits, rfl⟩, rfl, rfl⟩
    refine ⟨sign, c, digits, by simp, List.forall_mem_cons.2 ⟨hc, hdigits⟩, ?_⟩
    rcases hsign with ⟨_, rfl, d, hd, rfl, rfl⟩ | ⟨rfl, rfl⟩
    · refine .inl ⟨?_, rfl⟩
      rcases hd with rfl | rfl
      · exact .inl rfl
      · exact .inr rfl
    · exact .inr ⟨rfl, rfl⟩

theorem isNumeral_iff_choices : Text.IsNumeral word ↔ ∃ way, NumeralChoices word way := by
  constructor
  · rintro ⟨sign, digits, rfl, hsign, hne, hdigits⟩
    obtain ⟨c, digits, rfl⟩ := List.exists_cons_of_ne_nil hne
    rcases hsign with rfl | hsign
    · exact ⟨_, [], c, digits, rfl, hdigits, .inr ⟨rfl, rfl⟩⟩
    · exact ⟨_, sign, c, digits, rfl, hdigits, .inl ⟨hsign, rfl⟩⟩
  · rintro ⟨_, sign, c, digits, rfl, hdigits, ⟨hsign, -⟩ | ⟨rfl, -⟩⟩
    · exact ⟨sign, c :: digits, rfl, .inr hsign, by simp, hdigits⟩
    · exact ⟨[], c :: digits, rfl, .inl rfl, by simp, hdigits⟩

theorem compiles_range (low high : Int) : (Piece.range low high).Compiles (Number low high) := by
  refine ⟨_, by rw [Piece.regex?], ?_⟩
  rw [Piece.bounds]
  have hways := enumerates_numeralChoices.number longestFirst_numeralChoices low high
  exact hways.congr fun word way _ => and_congr_left fun _ => isNumeral_iff_choices

/-! ### Choices -/

/-- The parts of a choice have expressions, which together list the readings of the parts. -/
theorem exists_partsRegexes {texts : List (List Char)} {pattern : List Char → Pattern}
    {language : List Char → Language} (hne : texts ≠ [])
    (h : ∀ text ∈ texts, Compiles (pattern text) (language text)) (i : Nat) :
    ∃ list, partsRegexes? (texts.map pattern) = some list ∧ list ≠ [] ∧
      Enumerates (.choice list) (partsBounds (texts.map pattern)) (OneOf texts i language) := by
  induction texts generalizing i with
  | nil => exact absurd rfl hne
  | cons text texts ih =>
    obtain ⟨items, hitems, hways⟩ := h text List.mem_cons_self
    have hfirst := hways.tag (.branch i) trivial
    cases texts with
    | nil =>
      refine ⟨[.sequence items], ?_, by simp, ?_⟩
      · rw [List.map_cons, List.map_nil, partsRegexes?, hitems]
        rfl
      · rw [List.map_cons, List.map_nil, partsBounds, partsBounds, List.append_nil]
        refine hfirst.congr fun word way _ => ?_
        constructor
        · rintro ⟨j, text', inner, hj, rfl, hword⟩
          cases j with
          | zero =>
            cases hj
            exact ⟨inner, rfl, hword⟩
          | succ j => cases hj
        · rintro ⟨inner, rfl, hword⟩
          exact ⟨0, text, inner, rfl, rfl, hword⟩
    | cons other texts =>
      obtain ⟨list, hlist, hlistne, hothers⟩ :=
        ih (by simp) (fun other hmem => h other (List.mem_cons_of_mem _ hmem)) (i + 1)
      refine ⟨.sequence items :: list, ?_, by simp, ?_⟩
      · rw [List.map_cons, List.map_cons, partsRegexes?, hitems]
        · rw [List.map_cons] at hlist
          rw [hlist]
        · simp
      · rw [List.map_cons, partsBounds, Regex.choice]
        · refine (hfirst.alt hothers ?_).congr fun word way _ => ?_
          · -- The number of the part is the first step, so the first part comes before the others.
            rintro _ _ _ _ ⟨_, rfl, -⟩ ⟨j, _, _, -, rfl, -⟩
            exact .head (.earlier (by omega))
          · constructor
            · rintro ⟨j, text', inner, hj, rfl, hword⟩
              cases j with
              | zero =>
                cases hj
                exact .inl ⟨inner, rfl, hword⟩
              | succ j =>
                exact .inr ⟨j, text', inner, hj, by rw [Nat.add_right_comm, Nat.add_assoc], hword⟩
            · rintro (⟨inner, rfl, hword⟩ | ⟨j, text', inner, hj, rfl, hword⟩)
              · exact ⟨0, text, inner, rfl, rfl, hword⟩
              · exact ⟨j + 1, text', inner, hj, by rw [Nat.add_right_comm, Nat.add_assoc], hword⟩
        · exact hlistne

/-- Texts that are compiled into a choice, each with its language. -/
theorem compiles_either {texts : List (List Char)} {pattern : List Char → Pattern}
    {language : List Char → Language} (hne : texts ≠ [])
    (h : ∀ text ∈ texts, Section.Compiles (pattern text) (language text)) :
    (Piece.either (texts.map pattern)).Compiles (OneOf texts 0 language) := by
  obtain ⟨list, hlist, -, hways⟩ := exists_partsRegexes hne h 0
  refine ⟨.choice list, by rw [Piece.regex?, hlist]; rfl, ?_⟩
  rw [Piece.bounds]
  exact hways

/-! ## Conditions on patterns -/

/-- Every opening bracket is escaped. -/
def BracketsEscaped (text : List Char) : Prop :=
  ∀ before after, text = before ++ '[' :: after → ¬ Whole before

theorem bracketsEscaped_of_not_mem (h : '[' ∉ text) : BracketsEscaped text := by
  rintro before after rfl
  exact absurd (List.mem_append_right before List.mem_cons_self) h

/-- No group is a range of integers. -/
def RangeFree (text : List Char) : Prop :=
  ∀ before body after, text = before ++ '{' :: (body ++ '}' :: after) → Whole before →
    Balanced body → integers? body = none

theorem BracketsEscaped.slice (h : BracketsEscaped text) (heq : text = before ++ part ++ after)
    (hwhole : Whole before) : BracketsEscaped part := by
  rintro front back rfl hfront
  exact h (before ++ front) (back ++ after) (by rw [heq]; simp) (hwhole.append hfront)

theorem RangeFree.slice (h : RangeFree text) (heq : text = before ++ part ++ after)
    (hwhole : Whole before) : RangeFree part := by
  rintro front body back rfl hfront hbody
  exact h (before ++ front) body (back ++ after) (by rw [heq]; simp) (hwhole.append hfront) hbody

theorem RangeFree.behind (front : List Char) (h : RangeFree (front ++ rest))
    (hwhole : Whole front) : RangeFree rest :=
  h.slice (by rw [List.append_nil]) hwhole

/-! ## Slices of a group -/

theorem whole_group (hbody : Balanced body) : Whole ('{' :: (body ++ ['}'])) :=
  .plain (by decide) (hbody.whole.append (whole_of_not_mem (by decide)))

theorem slice_behind_group (body after : List Char) :
    '{' :: (body ++ '}' :: after) = '{' :: (body ++ ['}']) ++ after ++ [] := by
  simp

/-- A part starts behind the opening brace of its group and outside of escapes. -/
theorem exists_around_part_of_group {list : List (List Char)} (hlist : ∀ p ∈ list, IsPart p)
    (hmem : part ∈ list) (after : List Char) :
    ∃ before behind,
      '{' :: (Text.join [','] list ++ '}' :: after) = '{' :: before ++ part ++ behind ∧
        Whole ('{' :: before) := by
  obtain ⟨before, behind, heq, hwhole⟩ := exists_around_part hlist hmem
  exact ⟨before, behind ++ '}' :: after, by simp [heq], .plain (by decide) hwhole⟩

/-! ## Reading and compiling -/

theorem compiles_group (hfound : braceBody? 0 rest = some (body, after))
    (hbody : Compiles (parse body) (Reads body))
    (hparts : ∀ part ∈ parts 0 body, Compiles (parse part) (Reads part))
    (hafter : Compiles (parse after) (Reads after)) :
    Compiles (parse ('{' :: rest)) (Reads ('{' :: rest)) := by
  rw [parse_group hfound]
  obtain ⟨rfl, hbalanced⟩ := braceBody?_eq_some_iff.1 hfound
  cases hrange : integers? body with
  | some pair =>
    exact ((compiles_range _ _).cons hafter).congr fun word way => reads_range hbalanced hrange
  | none =>
  dsimp only
  by_cases hlength : (parts 0 body).length < 2
  · rw [if_pos hlength]
    have hbraces := (compiles_char '{').cons (hbody.append (compiles_char '}').single)
    exact (hbraces.append hafter).congr fun word way => reads_single hbalanced hrange hlength
  · rw [if_neg hlength]
    have hne := ((parts_eq_iff hbalanced).1 rfl).1
    exact ((compiles_either hne hparts).cons hafter).congr
      fun word way => reads_either hbalanced (Nat.not_lt.1 hlength)

/-- Whatever is cut out of the text, outside of escapes and shorter than it, is compiled into what
it stands for. -/
def SlicesCompile (text : List Char) : Prop :=
  ∀ before part after, text = before ++ part ++ after → Whole before →
    part.length < text.length → Compiles (parse part) (Reads part)

/-- What follows the first piece is a slice that reaches to the end. -/
theorem SlicesCompile.behind (front : List Char) (h : SlicesCompile (front ++ rest))
    (hwhole : Whole front) (hne : front ≠ []) : Compiles (parse rest) (Reads rest) := by
  refine h front rest [] (by rw [List.append_nil]) hwhole ?_
  rw [List.length_append]
  have := List.length_pos_iff.2 hne
  omega

theorem compiles_parse_star (h : SlicesCompile ('*' :: rest)) :
    Compiles (parse ('*' :: rest)) (Reads ('*' :: rest)) := by
  by_cases hsecond : rest.head? = some '*'
  · obtain ⟨rest, rfl⟩ := List.head?_eq_some_iff.1 hsecond
    by_cases hthird : rest.head? = some '/'
    · obtain ⟨rest, rfl⟩ := List.head?_eq_some_iff.1 hthird
      have hrest := h.behind ['*', '*', '/'] (whole_of_not_mem (by decide)) (by simp)
      rw [parse_directories]
      exact (compiles_directories.cons hrest).congr fun word way => reads_directories
    · have hrest := h.behind ['*', '*'] (whole_of_not_mem (by decide)) (by simp)
      rw [parse_anything hthird]
      exact (compiles_anything.cons hrest).congr fun word way => reads_anything hthird
  · have hrest := h.behind ['*'] (whole_of_not_mem (by decide)) (by simp)
    rw [parse_star hsecond]
    exact (compiles_star.cons hrest).congr fun word way => reads_star hsecond

theorem compiles_parse_brace (h : SlicesCompile ('{' :: rest)) :
    Compiles (parse ('{' :: rest)) (Reads ('{' :: rest)) := by
  have hopen : Whole ['{'] := whole_of_not_mem (by decide)
  cases hfound : braceBody? 0 rest with
  | none =>
    have hrest := h.behind ['{'] hopen (by simp)
    rw [parse_unbalanced hfound]
    exact ((compiles_char '{').cons hrest).congr fun word way => reads_unbalanced hfound
  | some found =>
    obtain ⟨body, after⟩ := found
    obtain ⟨rfl, hbalanced⟩ := braceBody?_eq_some_iff.1 hfound
    obtain ⟨-, hlist, hjoin⟩ := (parts_eq_iff hbalanced).1 rfl
    refine compiles_group hfound ?_ ?_ ?_
    · -- The body, its parts and what follows the group are shorter slices of the header.
      refine h ['{'] body ('}' :: after) rfl hopen ?_
      rw [List.length_cons, List.length_append]
      omega
    · intro part hmem
      obtain ⟨before, behind, heq, hwhole⟩ := exists_around_part_of_group hlist hmem after
      rw [hjoin] at heq
      refine h ('{' :: before) part behind heq hwhole ?_
      rw [heq]
      simp only [List.length_append, List.length_cons]
      omega
    · refine h ('{' :: (body ++ ['}'])) after [] (slice_behind_group body after)
        (whole_group hbalanced) ?_
      simp only [List.length_cons, List.length_append]
      omega

theorem compiles_parse_itself (h : SlicesCompile (c :: rest)) (hstar : c ≠ '*') (hone : c ≠ '?')
    (hset : c ≠ '[') (hgroup : c ≠ '{') (hescape : c = '\\' → rest = []) :
    Compiles (parse (c :: rest)) (Reads (c :: rest)) := by
  have hrest : Compiles (parse rest) (Reads rest) := by
    by_cases hc : c = '\\'
    · rw [hescape hc]
      exact h [] [] (c :: rest) rfl .nil (by simp)
    · exact h.behind [c] (.plain hc .nil) (by simp)
  rw [parse_char hstar hone hset hgroup hescape]
  exact ((compiles_char c).cons hrest).congr
    fun word way => reads_itself hstar hone hset hgroup hescape

/-- **Reading keeps the meaning.** -/
theorem compiles_parse (text : List Char) (hbrackets : BracketsEscaped text) :
    Compiles (parse text) (Reads text) := by
  have hslices : SlicesCompile text := fun before part after heq hwhole hlt =>
    compiles_parse part (hbrackets.slice heq hwhole)
  cases text with
  | nil =>
    rw [parse_nil]
    exact compiles_nil.congr fun word way => reads_nil
  | cons c rest =>
    by_cases hescape : c = '\\' ∧ rest ≠ []
    · obtain ⟨rfl, hne⟩ := hescape
      obtain ⟨d, rest, rfl⟩ := List.exists_cons_of_ne_nil hne
      have hrest := hslices.behind ['\\', d] (.escaped d .nil) (by simp)
      rw [parse_escaped]
      exact ((compiles_char d).cons hrest).congr fun word way => reads_escaped
    have hescape : c = '\\' → rest = [] := fun heq =>
      Classical.byContradiction fun hne => hescape ⟨heq, hne⟩
    by_cases hstar : c = '*'
    · subst hstar
      exact compiles_parse_star hslices
    by_cases hone : c = '?'
    · subst hone
      have hrest := hslices.behind ['?'] (whole_of_not_mem (by decide)) (by simp)
      rw [parse_one]
      exact (compiles_one.cons hrest).congr fun word way => reads_one
    by_cases hset : c = '['
    · exact absurd .nil (hbrackets [] rest (by rw [hset]; rfl))
    by_cases hgroup : c = '{'
    · subst hgroup
      exact compiles_parse_brace hslices
    exact compiles_parse_itself hslices hstar hone hset hgroup hescape
termination_by text.length

/-! ## Headers -/

/-- The header as a pattern for paths relative to the directory of its file. -/
def anchored (header : List Char) : List Char :=
  if '/' ∈ header then
    match header with
    | '/' :: rest => rest
    | _ => header
  else '*' :: '*' :: '/' :: header

theorem ofHeader_eq_parse (header : List Char) : ofHeader header = parse (anchored header) := by
  unfold ofHeader anchored
  split <;> rfl

/-- What keeps a condition on slices keeps it from a header to its anchored form. -/
theorem anchored_cases (header : List Char) :
    (∃ before, header = before ++ anchored header ∧ Whole before) ∨
      anchored header = '*' :: '*' :: '/' :: header := by
  unfold anchored
  split
  · split
    · exact .inl ⟨['/'], rfl, whole_of_not_mem (by decide)⟩
    · exact .inl ⟨[], rfl, .nil⟩
  · exact .inr rfl

theorem Whole.of_cons (h : Whole (c :: text)) (hc : c ≠ '\\') : Whole text := by
  cases h with
  | escaped _ _ => exact absurd rfl hc
  | plain _ h => exact h

theorem BracketsEscaped.cons (h : BracketsEscaped text) (hescape : c ≠ '\\') (hset : c ≠ '[') :
    BracketsEscaped (c :: text) := by
  intro before after heq hwhole
  cases before with
  | nil => exact hset (List.cons.inj heq).1
  | cons d before =>
    obtain ⟨rfl, rfl⟩ := List.cons.inj heq
    exact h before after rfl (hwhole.of_cons hescape)

theorem RangeFree.cons (h : RangeFree text) (hescape : c ≠ '\\') (hgroup : c ≠ '{') :
    RangeFree (c :: text) := by
  intro before body after heq hwhole
  cases before with
  | nil => exact absurd (List.cons.inj heq).1 hgroup
  | cons d before =>
    obtain ⟨rfl, rfl⟩ := List.cons.inj heq
    exact h before body after rfl (hwhole.of_cons hescape)

theorem BracketsEscaped.anchored {header : List Char} (h : BracketsEscaped header) :
    BracketsEscaped (anchored header) := by
  obtain ⟨before, heq, hwhole⟩ | heq := anchored_cases header
  · exact h.slice (by rw [List.append_nil]; exact heq) hwhole
  · rw [heq]
    exact ((h.cons (by decide) (by decide)).cons (by decide) (by decide)).cons
      (by decide) (by decide)

theorem RangeFree.anchored {header : List Char} (h : RangeFree header) :
    RangeFree (anchored header) := by
  obtain ⟨before, heq, hwhole⟩ | heq := anchored_cases header
  · exact h.slice (by rw [List.append_nil]; exact heq) hwhole
  · rw [heq]
    exact ((h.cons (by decide) (by decide)).cons (by decide) (by decide)).cons
      (by decide) (by decide)

/-- A header gives a glob of an expression that lists the readings of the anchored header. -/
theorem exists_glob (header : List Char) (hbrackets : BracketsEscaped header) :
    ∃ glob, Glob.ofHeader? header = some glob ∧
      Enumerates glob.regex glob.bounds (Reads (anchored header)) := by
  obtain ⟨items, hitems, hways⟩ := compiles_parse (anchored header) hbrackets.anchored
  refine ⟨⟨.sequence items, patternBounds (parse (anchored header))⟩, ?_, hways⟩
  unfold Glob.ofHeader?
  simp only [ofHeader_eq_parse, ofSource?_source, hitems, Option.map_some]

/-- Without ranges there is nothing that a reading leaves open. -/
theorem Reads.holds (h : Reads text word way) (hranges : RangeFree text) :
    ∀ step ∈ way, step.Holds := by
  induction h with
  | nil => simp
  | @escaped c rest _ _ _ ih => exact ih (hranges.behind ['\\', c] (.escaped c .nil))
  | @directories rest _ _ _ _ _ ih =>
    have hrest : RangeFree rest := hranges.behind ['*', '*', '/'] (whole_of_not_mem (by decide))
    exact List.forall_mem_cons.2 ⟨trivial, ih hrest⟩
  | @anything rest _ _ _ _ _ ih =>
    have hrest : RangeFree rest := hranges.behind ['*', '*'] (whole_of_not_mem (by decide))
    exact List.forall_mem_cons.2 ⟨trivial, ih hrest⟩
  | @star rest _ _ _ _ _ _ ih =>
    have hrest : RangeFree rest := hranges.behind ['*'] (whole_of_not_mem (by decide))
    exact List.forall_mem_cons.2 ⟨trivial, ih hrest⟩
  | one _ _ ih => exact ih (hranges.behind ['?'] (whole_of_not_mem (by decide)))
  | @range _ body rest _ _ _ _ _ heq hbody hrange _ _ _ =>
    rw [hranges [] body rest (by rw [heq]; rfl) .nil hbody] at hrange
    cases hrange
  | either heq hlist _ hi _ _ ihpart ih =>
    obtain ⟨before, behind, hslice, hwhole⟩ := exists_around_part_of_group hlist
      (List.mem_of_getElem? hi) _
    have hpart := hranges.slice (by rw [heq]; exact hslice) hwhole
    have hrest := hranges.slice (by rw [heq]; exact slice_behind_group _ _)
      (whole_group (balanced_join hlist))
    exact List.forall_mem_append.2 ⟨List.forall_mem_cons.2 ⟨trivial, ihpart hpart⟩, ih hrest⟩
  | @single _ body rest _ _ _ _ heq hpart _ _ _ ihbody ih =>
    have hslice : '{' :: _ = ['{'] ++ body ++ '}' :: rest := congrArg ('{' :: ·) heq
    have hbody := hranges.slice hslice (whole_of_not_mem (by decide))
    have hrest := hranges.slice (by rw [heq]; exact slice_behind_group _ _)
      (whole_group hpart.balanced)
    exact List.forall_mem_append.2 ⟨ihbody hbody, ih hrest⟩
  | unbalanced _ _ ih => exact ih (hranges.behind ['{'] (whole_of_not_mem (by decide)))
  | @itself c rest _ _ _ _ _ _ hescape _ ih =>
    by_cases hc : c = '\\'
    · rw [hescape hc] at ih
      exact ih fun before body after heq => by simp at heq
    · exact ih (hranges.behind [c] (.plain hc .nil))

/-- **A header gives a glob, and the glob matches what the anchored header stands for.** -/
theorem isMatch_iff_denotes (header : List Char) (hbrackets : BracketsEscaped header)
    (hranges : RangeFree header) :
    ∃ glob, Glob.ofHeader? header = some glob ∧ ∀ path, '\n' ∉ path →
      (glob.isMatch path = true ↔ Denotes (anchored header) path) := by
  obtain ⟨glob, hglob, hways⟩ := exists_glob header hbrackets
  refine ⟨glob, hglob, fun path hline => ?_⟩
  rw [denotes_iff_reads, hways.isMatch_iff hline]
  constructor
  · rintro ⟨way, hway, hholds⟩
    exact ⟨way, hway.1, hholds⟩
  · rintro ⟨way, hway, -⟩
    obtain ⟨first, hfirst⟩ := hways.exists_preferred hline hway
    exact ⟨first, hfirst, hfirst.1.holds hranges.anchored⟩

/-- A body without a dot is no range. -/
theorem integers?_eq_none (h : '.' ∉ body) : integers? body = none := by
  have hcut : Text.cutAtWord ['.', '.'] body = none := by
    induction body with
    | nil => rfl
    | cons c body ih =>
      rw [List.mem_cons, not_or] at h
      have hc : ('.' == c) = false := by simpa using h.1
      simp [Text.cutAtWord, Text.dropWord?, hc, ih h.2]
  rw [integers?, hcut]

theorem isMatch_iff_denotes_folders :
    BracketsEscaped "\x7bsrc,lib\x7d/*".toList ∧ RangeFree "\x7bsrc,lib\x7d/*".toList ∧
      ∃ glob, Glob.ofHeader? "\x7bsrc,lib\x7d/*".toList = some glob ∧ ∀ path, '\n' ∉ path →
        (glob.isMatch path = true ↔ Denotes (anchored "\x7bsrc,lib\x7d/*".toList) path) := by
  have hbrackets : BracketsEscaped "\x7bsrc,lib\x7d/*".toList :=
    bracketsEscaped_of_not_mem (by decide)
  have hranges : RangeFree "\x7bsrc,lib\x7d/*".toList := by
    intro before body after heq _ _
    refine integers?_eq_none fun hdot => ?_
    have hmem : '.' ∈ "\x7bsrc,lib\x7d/*".toList := by
      rw [heq]
      simp [hdot]
    exact absurd hmem (by decide)
  exact ⟨hbrackets, hranges, isMatch_iff_denotes _ hbrackets hranges⟩

end StyleCheck.Section
