import StyleCheck.Proofs.Section.Braces
import StyleCheck.Proofs.Text.Numeral
import StyleCheck.Proofs.Text.Split

/-!
# Ways to read a pattern

A text that a pattern stands for can be read in several ways, which differ in how much the stars
take, in the parts that are chosen from groups, and in how much stands for a range.
`Reads text word way` says that the word is a reading of the pattern whose choices, from left to
right, are the steps of the way. It asks of a range that it stands for a numeral, but leaves its
bounds open (`Step.Holds`).

Of two ways the preferred one is better at the first step where they differ: a star or a range takes
more there, or an earlier part is chosen (`Before`).

**Theorem (`denotes_iff_reads`).** A pattern stands for the texts that have a way of reading with
every range within its bounds.
-/

namespace StyleCheck.Section

/-! ## What a pattern stands for

`Denotes text word` says what texts a section pattern stands for, by the shapes of the pattern as
it is written and without reading it into pieces. Bracket sets are left out. -/

/-- A section pattern, and a text that it stands for. -/
inductive Denotes : List Char → List Char → Prop
  /-- The empty pattern is the empty text. -/
  | nil : Denotes [] []
  /-- An escaped character is that character. -/
  | escaped {c : Char} {rest word : List Char} :
    Denotes rest word → Denotes ('\\' :: c :: rest) (c :: word)
  /-- `**/` is the empty text or any text that ends in `/`. -/
  | directories {rest front word : List Char} : front = [] ∨ front.getLast? = some '/' →
    Denotes rest word → Denotes ('*' :: '*' :: '/' :: rest) (front ++ word)
  /-- Any other `**` is any text. -/
  | anything {rest front word : List Char} : rest.head? ≠ some '/' →
    Denotes rest word → Denotes ('*' :: '*' :: rest) (front ++ word)
  /-- A single `*` is any text without `/`. -/
  | star {rest front word : List Char} : rest.head? ≠ some '*' → '/' ∉ front →
    Denotes rest word → Denotes ('*' :: rest) (front ++ word)
  /-- `?` is one character other than `/`. -/
  | one {c : Char} {rest word : List Char} : c ≠ '/' →
    Denotes rest word → Denotes ('?' :: rest) (c :: word)
  /-- `{n..m}` is an integer between the two. -/
  | range {text body rest front word : List Char} {n m value : Int} :
    text = body ++ '}' :: rest → Balanced body → integers? body = some (n, m) →
    Text.integer? front = some value → min n m ≤ value → value ≤ max n m →
    Denotes rest word → Denotes ('{' :: text) (front ++ word)
  /-- A group with several parts is one of them. -/
  | either {text rest part front word : List Char} {parts : List (List Char)} :
    text = Text.join [','] parts ++ '}' :: rest → (∀ p ∈ parts, IsPart p) → 2 ≤ parts.length →
    part ∈ parts → Denotes part front →
    Denotes rest word → Denotes ('{' :: text) (front ++ word)
  /-- A group with a single part is that part between braces. -/
  | single {text body rest front word : List Char} :
    text = body ++ '}' :: rest → IsPart body → integers? body = none → Denotes body front →
    Denotes rest word → Denotes ('{' :: text) ('{' :: front ++ '}' :: word)
  /-- A brace that opens no group is itself. -/
  | unbalanced {rest word : List Char} :
    (∀ body after, rest = body ++ '}' :: after → ¬ Balanced body) →
    Denotes rest word → Denotes ('{' :: rest) ('{' :: word)
  /-- Every other character is itself, a `\` at the very end included. -/
  | itself {c : Char} {rest word : List Char} : c ≠ '*' → c ≠ '?' → c ≠ '[' → c ≠ '{' →
    (c = '\\' → rest = []) → Denotes rest word → Denotes (c :: rest) (c :: word)

variable {c : Char} {text rest body after word : List Char} {list : List (List Char)}

/-! ## Steps -/

/-- A choice that is made in reading a pattern. -/
inductive Step
  /-- A star of any kind took so many characters. -/
  | stretch (length : Nat)
  /-- The part of this index was taken from a group. -/
  | branch (index : Nat)
  /-- A range stood for this text. -/
  | number (text : List Char) (low high : Int)

/-- If the step is the text of a range, that is an integer between the bounds. -/
def Step.Holds : Step → Prop
  | .number text low high => ∃ value, Text.integer? text = some value ∧ low ≤ value ∧ value ≤ high
  | _ => True

/-- The first of two steps at the same place of a pattern is the preferred one. -/
inductive Step.Precedes : Step → Step → Prop
  | longer {m n : Nat} : n < m → Precedes (.stretch m) (.stretch n)
  | earlier {i j : Nat} : i < j → Precedes (.branch i) (.branch j)
  | moreDigits {text other : List Char} {low high : Int} : other.length < text.length →
    Precedes (.number text low high) (.number other low high)

theorem Step.Precedes.asymm {step other : Step} (h : step.Precedes other) :
    ¬ other.Precedes step := by
  intro h'
  cases h with
  | longer hlt =>
    cases h' with
    | longer hlt' => exact Nat.lt_asymm hlt hlt'
  | earlier hlt =>
    cases h' with
    | earlier hlt' => exact Nat.lt_asymm hlt hlt'
  | moreDigits hlt =>
    cases h' with
    | moreDigits hlt' => exact Nat.lt_asymm hlt hlt'

/-! ## Preference -/

/-- The first way is better at the first step where the two differ. -/
inductive Before : List Step → List Step → Prop
  | head {step other : Step} {way more : List Step} : step.Precedes other →
    Before (step :: way) (other :: more)
  | tail {step : Step} {way other : List Step} : Before way other →
    Before (step :: way) (step :: other)

variable {steps way other more : List Step}

theorem Before.append (h : Before way other) (steps more : List Step) :
    Before (way ++ steps) (other ++ more) := by
  induction h with
  | head hstep => exact .head hstep
  | tail _ ih => exact .tail ih

theorem Before.behind (h : Before way other) (steps : List Step) :
    Before (steps ++ way) (steps ++ other) := by
  induction steps with
  | nil => exact h
  | cons step steps ih => exact .tail ih

theorem before_cons {step step' : Step} :
    Before (step :: way) (step' :: other) ↔
      step.Precedes step' ∨ step = step' ∧ Before way other := by
  constructor
  · intro h
    cases h with
    | head hstep => exact .inl hstep
    | tail h => exact .inr ⟨rfl, h⟩
  · rintro (hstep | ⟨rfl, h⟩)
    · exact .head hstep
    · exact .tail h

@[simp] theorem not_before_nil : ¬ Before [] [] := by
  rintro ⟨⟩

@[simp] theorem precedes_stretch {m n : Nat} : (Step.stretch m).Precedes (.stretch n) ↔ n < m := by
  constructor
  · rintro ⟨h⟩
    exact h
  · exact .longer

@[simp] theorem precedes_branch {i j : Nat} : (Step.branch i).Precedes (.branch j) ↔ i < j := by
  constructor
  · rintro ⟨⟩
    assumption
  · exact .earlier

theorem Before.asymm (h : Before way other) : ¬ Before other way := by
  induction h with
  | head hstep =>
    intro h'
    cases h' with
    | head hstep' => exact hstep.asymm hstep'
    | tail _ => exact hstep.asymm hstep
  | tail _ ih =>
    intro h'
    cases h' with
    | head hstep => exact hstep.asymm hstep
    | tail h' => exact ih h'

/-! ## Languages -/

/-- Words with the steps by which they are read. -/
abbrev Language := List Char → List Step → Prop

/-- The way reads the word, and is before every other one that does. -/
def Preferred (language : Language) (word : List Char) (way : List Step) : Prop :=
  language word way ∧ ∀ other, language word other → other = way ∨ Before way other

theorem Preferred.unique {language : Language} (h : Preferred language word way)
    (h' : Preferred language word other) : way = other := by
  rcases h.2 other h'.1 with heq | hbefore
  · exact heq.symm
  · rcases h'.2 way h.1 with heq | hbefore'
    · exact heq
    · exact absurd hbefore' hbefore.asymm

/-! ## Readings -/

/-- A section pattern, a text that it can be read as up to the bounds of its ranges, and the steps
of the reading. -/
inductive Reads : List Char → List Char → List Step → Prop
  /-- The empty pattern is the empty text. -/
  | nil : Reads [] [] []
  /-- An escaped character is that character. -/
  | escaped {c : Char} {rest word : List Char} {way : List Step} :
    Reads rest word way → Reads ('\\' :: c :: rest) (c :: word) way
  /-- `**/` takes nothing, or a text that ends in `/`. -/
  | directories {rest front word : List Char} {way : List Step} :
    front = [] ∨ front.getLast? = some '/' → Reads rest word way →
    Reads ('*' :: '*' :: '/' :: rest) (front ++ word) (.stretch front.length :: way)
  /-- Any other `**` takes any text. -/
  | anything {rest front word : List Char} {way : List Step} : rest.head? ≠ some '/' →
    Reads rest word way →
    Reads ('*' :: '*' :: rest) (front ++ word) (.stretch front.length :: way)
  /-- A single `*` takes a text without `/`. -/
  | star {rest front word : List Char} {way : List Step} : rest.head? ≠ some '*' → '/' ∉ front →
    Reads rest word way → Reads ('*' :: rest) (front ++ word) (.stretch front.length :: way)
  /-- `?` is one character other than `/`. -/
  | one {c : Char} {rest word : List Char} {way : List Step} : c ≠ '/' →
    Reads rest word way → Reads ('?' :: rest) (c :: word) way
  /-- `{n..m}` stands for a numeral. -/
  | range {text body rest front word : List Char} {way : List Step} {n m : Int} :
    text = body ++ '}' :: rest → Balanced body → integers? body = some (n, m) →
    Text.IsNumeral front → Reads rest word way →
    Reads ('{' :: text) (front ++ word) (.number front (min n m) (max n m) :: way)
  /-- From a group with several parts one is taken. -/
  | either {text rest part front word : List Char} {parts : List (List Char)} {i : Nat}
    {inner way : List Step} :
    text = Text.join [','] parts ++ '}' :: rest → (∀ p ∈ parts, IsPart p) → 2 ≤ parts.length →
    parts[i]? = some part → Reads part front inner → Reads rest word way →
    Reads ('{' :: text) (front ++ word) (.branch i :: inner ++ way)
  /-- A group with a single part is that part between braces. -/
  | single {text body rest front word : List Char} {inner way : List Step} :
    text = body ++ '}' :: rest → IsPart body → integers? body = none → Reads body front inner →
    Reads rest word way → Reads ('{' :: text) ('{' :: front ++ '}' :: word) (inner ++ way)
  /-- A brace that opens no group is itself. -/
  | unbalanced {rest word : List Char} {way : List Step} :
    (∀ body after, rest = body ++ '}' :: after → ¬ Balanced body) →
    Reads rest word way → Reads ('{' :: rest) ('{' :: word) way
  /-- Every other character is itself, a `\` at the very end included. -/
  | itself {c : Char} {rest word : List Char} {way : List Step} : c ≠ '*' → c ≠ '?' → c ≠ '[' →
    c ≠ '{' → (c = '\\' → rest = []) → Reads rest word way → Reads (c :: rest) (c :: word) way

/-! ## Meaning -/

theorem Denotes.exists_reads (h : Denotes text word) :
    ∃ way, Reads text word way ∧ ∀ step ∈ way, step.Holds := by
  induction h with
  | nil => exact ⟨[], .nil, by simp⟩
  | escaped _ ih =>
    obtain ⟨way, hway, hholds⟩ := ih
    exact ⟨way, .escaped hway, hholds⟩
  | directories hfront _ ih =>
    obtain ⟨way, hway, hholds⟩ := ih
    exact ⟨_, .directories hfront hway, List.forall_mem_cons.2 ⟨trivial, hholds⟩⟩
  | anything hhead _ ih =>
    obtain ⟨way, hway, hholds⟩ := ih
    exact ⟨_, .anything hhead hway, List.forall_mem_cons.2 ⟨trivial, hholds⟩⟩
  | star hhead hfront _ ih =>
    obtain ⟨way, hway, hholds⟩ := ih
    exact ⟨_, .star hhead hfront hway, List.forall_mem_cons.2 ⟨trivial, hholds⟩⟩
  | one hc _ ih =>
    obtain ⟨way, hway, hholds⟩ := ih
    exact ⟨way, .one hc hway, hholds⟩
  | range heq hbody hrange hvalue hlow hhigh _ ih =>
    obtain ⟨way, hway, hholds⟩ := ih
    exact ⟨_, .range heq hbody hrange (Text.isNumeral_of_integer? hvalue) hway,
      List.forall_mem_cons.2 ⟨⟨_, hvalue, hlow, hhigh⟩, hholds⟩⟩
  | either heq hlist hlength hmem _ _ ihpart ih =>
    obtain ⟨inner, hinner, hpart⟩ := ihpart
    obtain ⟨way, hway, hholds⟩ := ih
    obtain ⟨i, hi⟩ := List.getElem?_of_mem hmem
    exact ⟨_, .either heq hlist hlength hi hinner hway,
      List.forall_mem_append.2 ⟨List.forall_mem_cons.2 ⟨trivial, hpart⟩, hholds⟩⟩
  | single heq hpart hrange _ _ ihbody ih =>
    obtain ⟨inner, hinner, hbody⟩ := ihbody
    obtain ⟨way, hway, hholds⟩ := ih
    exact ⟨_, .single heq hpart hrange hinner hway, List.forall_mem_append.2 ⟨hbody, hholds⟩⟩
  | unbalanced hnot _ ih =>
    obtain ⟨way, hway, hholds⟩ := ih
    exact ⟨way, .unbalanced hnot hway, hholds⟩
  | itself hstar hone hset hgroup hescape _ ih =>
    obtain ⟨way, hway, hholds⟩ := ih
    exact ⟨way, .itself hstar hone hset hgroup hescape hway, hholds⟩

theorem Reads.denotes (h : Reads text word way) (hholds : ∀ step ∈ way, step.Holds) :
    Denotes text word := by
  induction h with
  | nil => exact .nil
  | escaped _ ih => exact .escaped (ih hholds)
  | directories hfront _ ih => exact .directories hfront (ih (List.forall_mem_cons.1 hholds).2)
  | anything hhead _ ih => exact .anything hhead (ih (List.forall_mem_cons.1 hholds).2)
  | star hhead hfront _ ih => exact .star hhead hfront (ih (List.forall_mem_cons.1 hholds).2)
  | one hc _ ih => exact .one hc (ih hholds)
  | range heq hbody hrange _ _ ih =>
    obtain ⟨⟨value, hvalue, hlow, hhigh⟩, hway⟩ := List.forall_mem_cons.1 hholds
    exact .range heq hbody hrange hvalue hlow hhigh (ih hway)
  | either heq hlist hlength hi _ _ ihpart ih =>
    obtain ⟨hpart, hway⟩ := List.forall_mem_append.1 hholds
    exact .either heq hlist hlength (List.mem_of_getElem? hi)
      (ihpart (List.forall_mem_cons.1 hpart).2) (ih hway)
  | single heq hpart hrange _ _ ihbody ih =>
    obtain ⟨hbody, hway⟩ := List.forall_mem_append.1 hholds
    exact .single heq hpart hrange (ihbody hbody) (ih hway)
  | unbalanced hnot _ ih => exact .unbalanced hnot (ih hholds)
  | itself hstar hone hset hgroup hescape _ ih =>
    exact .itself hstar hone hset hgroup hescape (ih hholds)

/-- **A pattern stands for what has a way of reading within the bounds.** -/
theorem denotes_iff_reads :
    Denotes text word ↔ ∃ way, Reads text word way ∧ ∀ step ∈ way, step.Holds := by
  constructor
  · exact Denotes.exists_reads
  · rintro ⟨way, hway, hholds⟩
    exact hway.denotes hholds

/-! ## Readings by shape -/

/-- A first word and then a second one. -/
def Then (first second : Language) : Language := fun word way =>
  ∃ front back steps more, word = front ++ back ∧ way = steps ++ more ∧ first front steps ∧
    second back more

/-- One given character, without a choice. -/
def Literal (c : Char) : Language := fun word way => word = [c] ∧ way = []

/-- One of the words that a star takes. -/
def Stretch (allowed : List Char → Prop) : Language := fun word way =>
  allowed word ∧ way = [.stretch word.length]

/-- A numeral for a range. -/
def Number (low high : Int) : Language := fun word way =>
  Text.IsNumeral word ∧ way = [.number word low high]

/-- One of several texts, the first of which has the index `i`. -/
def OneOf (texts : List (List Char)) (i : Nat) (language : List Char → Language) : Language :=
  fun word way => ∃ j text inner, texts[j]? = some text ∧ way = .branch (i + j) :: inner ∧
    language text word inner

theorem reads_nil : Reads [] word way ↔ word = [] ∧ way = [] := by
  constructor
  · rintro ⟨⟩
    exact ⟨rfl, rfl⟩
  · rintro ⟨rfl, rfl⟩
    exact .nil

theorem reads_escaped :
    Reads ('\\' :: c :: rest) word way ↔ Then (Literal c) (Reads rest) word way := by
  constructor
  · intro h
    cases h with
    | escaped hrest => exact ⟨[c], _, [], _, rfl, rfl, ⟨rfl, rfl⟩, hrest⟩
    | itself _ _ _ _ hend _ => cases hend rfl
  · rintro ⟨_, _, _, _, rfl, rfl, ⟨rfl, rfl⟩, hrest⟩
    exact .escaped hrest

theorem reads_directories :
    Reads ('*' :: '*' :: '/' :: rest) word way ↔
      Then (Stretch fun front => front = [] ∨ front.getLast? = some '/') (Reads rest) word way := by
  constructor
  · intro h
    cases h with
    | directories hfront hrest => exact ⟨_, _, [_], _, rfl, rfl, ⟨hfront, rfl⟩, hrest⟩
    | anything hhead _ => exact absurd rfl hhead
    | star hhead _ _ => exact absurd rfl hhead
    | itself hstar _ _ _ _ _ => exact absurd rfl hstar
  · rintro ⟨_, _, _, _, rfl, rfl, ⟨hfront, rfl⟩, hrest⟩
    exact .directories hfront hrest

theorem reads_anything (h : rest.head? ≠ some '/') :
    Reads ('*' :: '*' :: rest) word way ↔
      Then (Stretch fun _ => True) (Reads rest) word way := by
  constructor
  · intro hword
    cases hword with
    | directories _ _ => exact absurd rfl h
    | anything _ hrest => exact ⟨_, _, [_], _, rfl, rfl, ⟨trivial, rfl⟩, hrest⟩
    | star hhead _ _ => exact absurd rfl hhead
    | itself hstar _ _ _ _ _ => exact absurd rfl hstar
  · rintro ⟨_, _, _, _, rfl, rfl, ⟨-, rfl⟩, hrest⟩
    exact .anything h hrest

theorem reads_star (h : rest.head? ≠ some '*') :
    Reads ('*' :: rest) word way ↔
      Then (Stretch fun front => '/' ∉ front) (Reads rest) word way := by
  constructor
  · intro hword
    cases hword with
    | directories _ _ => exact absurd rfl h
    | anything _ _ => exact absurd rfl h
    | star _ hfront hrest => exact ⟨_, _, [_], _, rfl, rfl, ⟨hfront, rfl⟩, hrest⟩
    | itself hstar _ _ _ _ _ => exact absurd rfl hstar
  · rintro ⟨_, _, _, _, rfl, rfl, ⟨hfront, rfl⟩, hrest⟩
    exact .star h hfront hrest

theorem reads_one :
    Reads ('?' :: rest) word way ↔
      Then (fun front steps => ∃ c, c ≠ '/' ∧ Literal c front steps) (Reads rest) word way := by
  constructor
  · intro h
    cases h with
    | one hc hrest => exact ⟨[_], _, [], _, rfl, rfl, ⟨_, hc, rfl, rfl⟩, hrest⟩
    | itself _ hone _ _ _ _ => exact absurd rfl hone
  · rintro ⟨_, _, _, _, rfl, rfl, ⟨c, hc, rfl, rfl⟩, hrest⟩
    exact .one hc hrest

theorem reads_itself (hstar : c ≠ '*') (hone : c ≠ '?') (hset : c ≠ '[') (hgroup : c ≠ '{')
    (hescape : c = '\\' → rest = []) :
    Reads (c :: rest) word way ↔ Then (Literal c) (Reads rest) word way := by
  constructor
  · intro h
    cases h with
    | escaped _ => cases hescape rfl
    | directories _ _ => exact absurd rfl hstar
    | anything _ _ => exact absurd rfl hstar
    | star _ _ _ => exact absurd rfl hstar
    | one _ _ => exact absurd rfl hone
    | range _ _ _ _ _ => exact absurd rfl hgroup
    | either _ _ _ _ _ _ => exact absurd rfl hgroup
    | single _ _ _ _ _ => exact absurd rfl hgroup
    | unbalanced _ _ => exact absurd rfl hgroup
    | itself _ _ _ _ _ hrest => exact ⟨[c], _, [], _, rfl, rfl, ⟨rfl, rfl⟩, hrest⟩
  · rintro ⟨_, _, _, _, rfl, rfl, ⟨rfl, rfl⟩, hrest⟩
    exact .itself hstar hone hset hgroup hescape hrest

/-! ### Braces -/

theorem comma_mem_join (h : 2 ≤ list.length) : ',' ∈ Text.join [','] list := by
  match list, h with
  | first :: other :: others, _ => simp [Text.join]

/-- The bounds of a range are numerals, so no comma stands between its braces. -/
theorem comma_not_mem_of_integers? {n m : Int} (h : integers? body = some (n, m)) :
    ',' ∉ body := by
  unfold integers? at h
  split at h
  · cases h
  next low high hcut =>
    split at h
    next hlow hhigh =>
      rw [Text.eq_append_of_cutAtWord hcut]
      have hnumeral : ∀ {text value}, Text.integer? text = some value → ',' ∉ text := fun h =>
        (Text.isNumeral_of_integer? h).not_mem (by decide) (by decide) (by decide)
      simp [hnumeral hlow, hnumeral hhigh]
    · cases h

theorem parts_join_eq (hlist : ∀ part ∈ list, IsPart part) (hne : list ≠ []) :
    parts 0 (Text.join [','] list) = list :=
  (parts_eq_iff (balanced_join hlist)).2 ⟨hne, hlist, rfl⟩

theorem length_parts_of_integers? {n m : Int} (hbody : Balanced body)
    (hrange : integers? body = some (n, m)) : (parts 0 body).length < 2 := by
  obtain ⟨-, -, hjoin⟩ := (parts_eq_iff hbody).1 rfl
  refine Nat.lt_of_not_le fun hlength => comma_not_mem_of_integers? hrange ?_
  rw [← hjoin]
  exact comma_mem_join hlength

/-- What the group with this body can be. -/
def Group (body : List Char) : Language := fun word way =>
  (∃ n m, integers? body = some (n, m) ∧ Number (min n m) (max n m) word way) ∨
    2 ≤ (parts 0 body).length ∧ OneOf (parts 0 body) 0 Reads word way ∨
      integers? body = none ∧ (parts 0 body).length < 2 ∧
        Then (Literal '{') (Then (Reads body) (Literal '}')) word way

/-- A body is determined by the text after its brace, and so is the kind of its group. -/
theorem reads_group (hbody : Balanced body) :
    Reads ('{' :: (body ++ '}' :: after)) word way ↔
      Then (Group body) (Reads after) word way := by
  constructor
  · intro h
    -- A body that is balanced is the only one, whichever rule reads the brace.
    cases h with
    | range heq hbalanced hrange hfront hrest =>
      obtain ⟨rfl, rfl⟩ := hbody.unique hbalanced heq
      exact ⟨_, _, [_], _, rfl, rfl, .inl ⟨_, _, hrange, hfront, rfl⟩, hrest⟩
    | @either _ rest part front word list i inner way heq hlist hlength hi hpart hrest =>
      obtain ⟨rfl, rfl⟩ := hbody.unique (balanced_join hlist) heq
      refine ⟨front, word, .branch i :: inner, way, rfl, rfl, .inr (.inl ?_), hrest⟩
      rw [parts_join_eq hlist (List.ne_nil_of_mem (List.mem_of_getElem? hi))]
      exact ⟨hlength, i, part, inner, hi, by rw [Nat.zero_add], hpart⟩
    | @single _ body' rest front word inner way heq hpart hrange hfront hrest =>
      obtain ⟨rfl, rfl⟩ := hbody.unique hpart.balanced heq
      have hparts : parts 0 body = [body] :=
        (parts_eq_iff hbody).2 ⟨by simp, by simpa using hpart, rfl⟩
      refine ⟨'{' :: front ++ ['}'], word, inner, way, by simp, rfl, .inr (.inr ?_), hrest⟩
      exact ⟨hrange, by simp [hparts], ['{'], front ++ ['}'], [], inner, rfl, rfl, ⟨rfl, rfl⟩,
        front, ['}'], inner, [], rfl, by simp, hfront, rfl, rfl⟩
    | unbalanced hnot _ => exact absurd hbody (hnot body after rfl)
    | itself _ _ _ hgroup _ _ => exact absurd rfl hgroup
  · rintro ⟨front, back, steps, more, rfl, rfl, hfront, hrest⟩
    rcases hfront with ⟨n, m, hrange, hfront, rfl⟩ | ⟨hlength, i, part, inner, hi, rfl, hpart⟩ |
      ⟨hrange, hlength, _, _, _, _, rfl, rfl, ⟨rfl, rfl⟩, inner, _, steps, _, rfl, rfl, hinner,
        rfl, rfl⟩
    · exact .range rfl hbody hrange hfront hrest
    · obtain ⟨-, hlist, hjoin⟩ := (parts_eq_iff hbody).1 rfl
      rw [Nat.zero_add]
      exact .either (by rw [hjoin]) hlist hlength hi hpart hrest
    · have hword : ['{'] ++ (inner ++ ['}']) ++ back = '{' :: inner ++ '}' :: back := by simp
      rw [hword, List.nil_append, List.append_nil]
      exact .single rfl (isPart_of_length_parts hbody hlength) hrange hinner hrest

theorem then_congr {first first' second : Language}
    (h : ∀ word way, first word way ↔ first' word way) :
    Then first second word way ↔ Then first' second word way := by
  simp only [Then, h]

theorem reads_range {n m : Int} (hbody : Balanced body) (hrange : integers? body = some (n, m)) :
    Reads ('{' :: (body ++ '}' :: after)) word way ↔
      Then (Number (min n m) (max n m)) (Reads after) word way := by
  have hlength := Nat.not_le_of_lt (length_parts_of_integers? hbody hrange)
  rw [reads_group hbody]
  refine then_congr fun word way => ?_
  constructor
  · rintro (⟨_, _, hsome, hword⟩ | ⟨hmany, -⟩ | ⟨hnone, -⟩)
    · rw [hrange] at hsome
      cases hsome
      exact hword
    · exact absurd hmany hlength
    · rw [hrange] at hnone
      cases hnone
  · intro hword
    exact .inl ⟨n, m, hrange, hword⟩

theorem reads_either (hbody : Balanced body) (hlength : 2 ≤ (parts 0 body).length) :
    Reads ('{' :: (body ++ '}' :: after)) word way ↔
      Then (OneOf (parts 0 body) 0 Reads) (Reads after) word way := by
  have hrange : ∀ n m, integers? body ≠ some (n, m) := fun n m hrange =>
    Nat.not_lt_of_le hlength (length_parts_of_integers? hbody hrange)
  rw [reads_group hbody]
  refine then_congr fun word way => ?_
  simp [Group, hrange, hlength, Nat.not_lt_of_le hlength]

theorem reads_single (hbody : Balanced body) (hrange : integers? body = none)
    (hlength : (parts 0 body).length < 2) :
    Reads ('{' :: (body ++ '}' :: after)) word way ↔
      Then (Then (Literal '{') (Then (Reads body) (Literal '}'))) (Reads after) word way := by
  rw [reads_group hbody]
  refine then_congr fun word way => ?_
  simp [Group, hrange, hlength, Nat.not_le_of_lt hlength]

theorem reads_unbalanced (h : braceBody? 0 rest = none) :
    Reads ('{' :: rest) word way ↔ Then (Literal '{') (Reads rest) word way := by
  have hnot := braceBody?_eq_none_iff.1 h
  constructor
  · intro hword
    cases hword with
    | range heq hbalanced _ _ _ => exact absurd hbalanced (hnot _ _ heq)
    | either heq hlist _ _ _ _ => exact absurd (balanced_join hlist) (hnot _ _ heq)
    | single heq hpart _ _ _ => exact absurd hpart.balanced (hnot _ _ heq)
    | unbalanced _ hrest => exact ⟨['{'], _, [], _, rfl, rfl, ⟨rfl, rfl⟩, hrest⟩
    | itself _ _ _ hgroup _ _ => exact absurd rfl hgroup
  · rintro ⟨_, _, _, _, rfl, rfl, ⟨rfl, rfl⟩, hrest⟩
    exact .unbalanced hnot hrest

end StyleCheck.Section
