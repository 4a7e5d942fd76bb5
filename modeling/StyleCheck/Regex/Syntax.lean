import StyleCheck.Regex.Basic

/-!
# The text of regular expressions

The part of the usual syntax that the program writes: literal characters, escapes, `.`, sets in
brackets, groups `(…)` that report their text and groups `(?:…)` that do not, choices inside of
groups, and the repetitions `*`, `+` and `?`. An expression stands between `^` and `$`.
`ofSource?` reads such a text; whatever lies outside of this part is not read.

The reader goes through the text once. It keeps a `Frame` for the group that it is in and the
frames of the groups around it.
-/

namespace StyleCheck.Regex.CharSet

/-! ## Sets of characters

What stands between the brackets of a regular expression: single characters, ranges `a-z`, and
`--` between two lists, which takes the second list away from the first. A hyphen is itself at the
start and at the end, and an escaped one is itself everywhere. A range whose ends are in the wrong
order makes the set invalid. -/

/-- What a set is written with. -/
inductive Item
  /-- A hyphen that is not escaped. -/
  | hyphen
  | symbol (c : Char)
  deriving DecidableEq, Repr

/-- An inclusive range of characters. -/
abbrev Range := Char × Char

/-- Whether the range contains the character. -/
def Range.contains (range : Range) (c : Char) : Bool := range.1 ≤ c && c ≤ range.2

/-- Add a range to the first of several lists. -/
def addToFirst (range : Range) : List (List Range) → List (List Range)
  | [] => [[range]]
  | first :: others => (range :: first) :: others

/-- The lists between the `--` marks; `none` for an invalid set. -/
def lists? : List Item → Option (List (List Range))
  | [] => some [[]]
  | .hyphen :: .hyphen :: rest => (lists? rest).map ([] :: ·)
  | .symbol c :: .hyphen :: .symbol d :: rest =>
    if c ≤ d then (lists? rest).map (addToFirst (c, d)) else none
  | .symbol c :: rest => (lists? rest).map (addToFirst (c, c))
  | .hyphen :: rest => (lists? rest).map (addToFirst ('-', '-'))

/-- The set that is written with the items; `none` if it is invalid. -/
def set? (items : List Item) : Option (Char → Bool) :=
  let hyphens := items.takeWhile (· == .hyphen)
  (lists? (items.dropWhile (· == .hyphen))).map fun lists =>
    match if hyphens.isEmpty then lists else addToFirst ('-', '-') lists with
    | [] => fun _ => false
    | listed :: removed => fun c =>
      listed.any (·.contains c) && !removed.any fun list => list.any (·.contains c)

end StyleCheck.Regex.CharSet

namespace StyleCheck.Regex

/-! ## Characters -/

/-- The characters with a meaning of their own. -/
def isMeta (c : Char) : Bool :=
  ['\\', '.', '+', '*', '?', '(', ')', '|', '[', ']', '{', '}', '^', '$', '#', '&', '-',
    '~'].contains c

/-- The text that stands for a character. -/
def escape (c : Char) : List Char := if isMeta c then ['\\', c] else [c]

/-- The characters that a backslash before them makes literal. -/
def isEscapable (c : Char) : Bool :=
  isMeta c || (c.val < 128 && !c.isAlphanum && c != '<' && c != '>')

/-- The repetitions. -/
def isRepetition (c : Char) : Bool := c == '*' || c == '+' || c == '?'

/-- Every character but the line feed. -/
def notLineFeed (c : Char) : Bool := c != '\n'

/-! ## Sets -/

/-- The items of a set up to its closing bracket, and the text after it. -/
def setItems? : List Char → Option (List CharSet.Item × List Char)
  | [] => none
  | ']' :: rest => some ([], rest)
  | '\\' :: c :: rest =>
    if isEscapable c then
      (setItems? rest).map fun (items, after) => (.symbol c :: items, after)
    else none
  | '-' :: rest => (setItems? rest).map fun (items, after) => (.hyphen :: items, after)
  | c :: rest =>
    if ['\\', '[', '&', '~'].contains c then none
    else (setItems? rest).map fun (items, after) => (.symbol c :: items, after)

theorem length_setItems? {cs after : List Char} {items : List CharSet.Item}
    (h : setItems? cs = some (items, after)) : after.length < cs.length := by
  fun_induction setItems? cs generalizing items
  case case1 => cases h
  case case2 =>
    cases h
    simp
  case case3 | case5 | case7 =>
    rename_i ih
    obtain ⟨⟨others, behind⟩, hothers, heq⟩ := Option.map_eq_some_iff.1 h
    cases heq
    have := ih hothers
    simp only [List.length_cons]
    omega
  case case4 | case6 => cases h

/-- A set, negated or not, cut off a text that starts with what is listed, and the text after
it. -/
def listedSet? (negated : Bool) (cs : List Char) : Option ((Char → Bool) × List Char) :=
  match setItems? cs with
  | some (item :: items, after) =>
    (CharSet.set? (item :: items)).map fun set => (fun c => set c != negated, after)
  | _ => none

/-- A set cut off a text that follows an opening bracket, and the text after it. -/
def set? : List Char → Option ((Char → Bool) × List Char)
  | '^' :: rest => listedSet? true rest
  | cs => listedSet? false cs

variable {cs after : List Char} {set : Char → Bool}

theorem length_listedSet? {negated : Bool} (h : listedSet? negated cs = some (set, after)) :
    after.length < cs.length := by
  unfold listedSet? at h
  split at h
  next hitems =>
    obtain ⟨listed, -, heq⟩ := Option.map_eq_some_iff.1 h
    cases heq
    exact length_setItems? hitems
  · cases h

theorem length_set? (h : set? cs = some (set, after)) : after.length < cs.length := by
  unfold set? at h
  split at h
  · exact Nat.lt_succ_of_lt (length_listedSet? h)
  · exact length_listedSet? h

/-! ## Expressions -/

/-- A group that is being read, or the expression around all groups. -/
structure Frame where
  /-- The group reports its text. -/
  captured : Bool := false
  /-- The choices before the last `|`, the latest first. -/
  choices : List (Regex Char) := []
  /-- What the last choice consists of, the latest first. -/
  items : List (Regex Char) := []

namespace Frame

/-- The frame with one more item. -/
def add (frame : Frame) (item : Regex Char) : Frame := { frame with items := item :: frame.items }

/-- The frame with the beginning of a new choice. -/
def next (frame : Frame) : Frame :=
  { frame with choices := sequence frame.items.reverse :: frame.choices, items := [] }

/-- The expression of the group. -/
def regex (frame : Frame) : Regex Char :=
  let body := choice (sequence frame.items.reverse :: frame.choices).reverse
  if frame.captured then .group body else body

/-- The frame with its last item repeated. Sets are repeated as often as wanted, and any item may
be left out. -/
def repeated? (frame : Frame) (repetition : Char) : Option Frame :=
  match repetition, frame.items with
  | '*', .one set :: items => some { frame with items := many set :: items }
  | '+', .one set :: items => some { frame with items := many1 set :: items }
  | '?', item :: items => some { frame with items := optional item :: items }
  | _, _ => none

end Frame

/-- Whether the text starts with a repetition. -/
def startsRepetition : List Char → Bool
  | c :: _ => isRepetition c
  | [] => false

/-- The expression whose text goes on with the given one, up to the closing `$`. The text before
has been read into the frames of the open groups, the innermost first. -/
def read? : List Char → Frame → List Frame → Option (Regex Char)
  | ['$'], frame, [] => some frame.regex
  | '\\' :: c :: rest, frame, outer =>
    if isEscapable c then read? rest (frame.add (symbol c)) outer else none
  | '.' :: rest, frame, outer => read? rest (frame.add (.one notLineFeed)) outer
  | '[' :: rest, frame, outer =>
    match _h : set? rest with
    | some (set, after) => read? after (frame.add (.one set)) outer
    | none => none
  | '(' :: '?' :: ':' :: rest, frame, outer => read? rest {} (frame :: outer)
  | '(' :: rest, frame, outer => read? rest { captured := true } (frame :: outer)
  | ')' :: rest, frame, parent :: outer => read? rest (parent.add frame.regex) outer
  | '|' :: rest, frame, parent :: outer => read? rest frame.next (parent :: outer)
  | c :: rest, frame, outer =>
    if isRepetition c then
      -- A second repetition would change what the first one prefers.
      if startsRepetition rest then none
      else match frame.repeated? c with
        | some frame => read? rest frame outer
        | none => none
    else if isMeta c then none
    else read? rest (frame.add (symbol c)) outer
  | [], _, _ => none
termination_by cs => cs.length
decreasing_by
  all_goals simp only [List.length_cons]
  all_goals try omega
  have := length_set? _h
  omega

/-- The expression of a text between `^` and `$`. -/
def ofSource? : List Char → Option (Regex Char)
  | '^' :: rest => read? rest {} []
  | _ => none

end StyleCheck.Regex
