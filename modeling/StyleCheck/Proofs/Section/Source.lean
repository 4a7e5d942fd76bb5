import StyleCheck.Proofs.Regex.Reading
import StyleCheck.Section.Glob

/-!
# The expression that the text of a pattern is read as

**Theorem (`ofSource?_source`).** Reading the text of a pattern gives the expression of its pieces
in a row. Each piece has an expression of its own (`Piece.regex?`), and only a bracket set can be
without one.

A piece leaves the frame that it is read in with its expression added, whatever text comes after
it, unless that text starts with a repetition. The text of a piece never does
(`startsRepetition_source`), so the pieces of a pattern do not touch each other
(`read?_patternSource`).
-/

namespace StyleCheck.Section

open Regex (read? Frame)

/-! ## The expressions of pieces -/

/-- Every character but the path separator. -/
def notSeparator (c : Char) : Bool := c != '/'

/-- A sign, or none, and at least one ASCII digit. -/
def signedDigits : Regex Char :=
  .sequence [.optional (.one fun c => c == '+' || c == '-'), .many1 fun c => '0' ≤ c && c ≤ '9']

/-- What a character of a bracket set is written for; `none` if it cannot be escaped. -/
def setItem? (c : Char) : Option Regex.CharSet.Item :=
  if c = '-' then some .hyphen
  else if isPunctuation c && !Regex.isEscapable c then none
  else some (.symbol c)

/-- The set of characters that a bracket set lists. -/
def bracketSet? (body : List Char) : Option (Char → Bool) :=
  match body.mapM setItem? with
  | some (item :: items) => Regex.CharSet.set? (item :: items)
  | _ => none

mutual

/-- The expression of a piece; `none` if it is an invalid bracket set. -/
def Piece.regex? : Piece → Option (Regex Char)
  | .char c => some (.symbol c)
  | .one => some (.one notSeparator)
  | .star => some (.many notSeparator)
  | .anything => some (.many Regex.notLineFeed)
  | .directories => some (.optional (.sequence [.many Regex.notLineFeed, .symbol '/']))
  | .bracket negated body => (bracketSet? body).map fun set => .one fun c => set c != negated
  | .range _ _ => some (.group signedDigits)
  | .either parts => (partsRegexes? parts).map .choice

/-- The expressions of the pieces of a pattern. -/
def patternRegexes? : List Piece → Option (List (Regex Char))
  | [] => some []
  | piece :: pieces =>
    match piece.regex?, patternRegexes? pieces with
    | some first, some others => some (first :: others)
    | _, _ => none

/-- The expressions of several patterns; no pattern at all is read as the empty one. -/
def partsRegexes? : List (List Piece) → Option (List (Regex Char))
  | [] => some [.empty]
  | [part] => (patternRegexes? part).map fun items => [.sequence items]
  | part :: parts =>
    match patternRegexes? part, partsRegexes? parts with
    | some items, some others => some (.sequence items :: others)
    | _, _ => none

end

variable {c : Char} {rest : List Char} {frame parent : Frame} {outer : List Frame}

/-! ## Sets -/

theorem contains_single (c d : Char) : Regex.CharSet.Range.contains (d, d) c = (c == d) := by
  rw [Bool.eq_iff_iff]
  simp only [Regex.CharSet.Range.contains, Bool.and_eq_true, decide_eq_true_eq, beq_iff_eq]
  constructor
  · rintro ⟨hle, hge⟩
    exact Char.le_antisymm hge hle
  · rintro rfl
    exact ⟨Char.le_refl c, Char.le_refl c⟩

theorem set?_separator : Regex.set? ('^' :: '/' :: ']' :: rest) = some (notSeparator, rest) := by
  simp [Regex.set?, Regex.listedSet?, Regex.setItems?, Regex.CharSet.set?, Regex.CharSet.lists?,
    Regex.CharSet.addToFirst, contains_single]
  rfl

theorem set?_sign :
    Regex.set? ('+' :: '-' :: ']' :: rest) = some (fun c => c == '+' || c == '-', rest) := by
  simp [Regex.set?, Regex.listedSet?, Regex.setItems?, Regex.CharSet.set?, Regex.CharSet.lists?,
    Regex.CharSet.addToFirst, contains_single]

theorem set?_digit :
    Regex.set? ('0' :: '-' :: '9' :: ']' :: rest) =
      some (fun c => '0' ≤ c && c ≤ '9', rest) := by
  simp [Regex.set?, Regex.listedSet?, Regex.setItems?, Regex.CharSet.set?, Regex.CharSet.lists?,
    Regex.CharSet.addToFirst, Regex.CharSet.Range.contains]

/-- The text of a bracket set is read as the items that it is written for. -/
theorem setItems?_source (body : List Char) :
    Regex.setItems? (body.flatMap setSource ++ ']' :: rest) =
      (body.mapM setItem?).map fun items => (items, rest) := by
  induction body with
  | nil => simp [Regex.setItems?]
  | cons c body ih =>
    rw [List.flatMap_cons, List.append_assoc, List.mapM_cons]
    by_cases hhyphen : c = '-'
    · subst hhyphen
      have hitem : setItem? '-' = some .hyphen := rfl
      have hsource : setSource '-' = ['-'] := rfl
      rw [hitem, hsource, List.singleton_append, Regex.setItems?, ih]
      cases body.mapM setItem? <;> rfl
    have hne : (c != '-') = true := bne_iff_ne.2 hhyphen
    -- Punctuation is written behind a backslash, which the reader takes for some of it only.
    cases hpunctuation : isPunctuation c with
    | true =>
      have hsource : setSource c = ['\\', c] := by simp [setSource, hne, hpunctuation]
      rw [hsource, List.cons_append, List.singleton_append, Regex.setItems?, ih]
      cases hescapable : Regex.isEscapable c with
      | true =>
        have hitem : setItem? c = some (.symbol c) := by
          simp [setItem?, hhyphen, hescapable]
        rw [hitem]
        cases body.mapM setItem? <;> rfl
      | false =>
        have hitem : setItem? c = none := by
          simp [setItem?, hhyphen, hpunctuation, hescapable]
        rw [hitem]
        rfl
    | false =>
      have hsource : setSource c = [c] := by simp [setSource, hpunctuation]
      have hitem : setItem? c = some (.symbol c) := by
        simp [setItem?, hhyphen, hpunctuation]
      have hclose : c ≠ ']' := by
        rintro rfl
        cases hpunctuation
      have hmeta : c ∉ ['\\', '[', '&', '~'] := by
        simp only [List.mem_cons, List.not_mem_nil, or_false]
        rintro (rfl | rfl | rfl | rfl) <;> cases hpunctuation
      rw [hsource, hitem, List.singleton_append,
        Regex.setItems?_plain hclose hhyphen hmeta, ih]
      cases body.mapM setItem? <;> rfl

/-- What a set lists does not start with punctuation, but for a backslash or a hyphen. -/
theorem head?_setSource {d : Char} {body : List Char} (hd : isPunctuation d = true)
    (hne : d ∉ ['\\', '-']) (hrest : body = [] → rest.head? ≠ some d) :
    (body.flatMap setSource ++ rest).head? ≠ some d := by
  cases body with
  | nil => exact hrest rfl
  | cons c body =>
    rw [List.mem_cons, List.mem_singleton, not_or] at hne
    rw [List.flatMap_cons, List.append_assoc]
    unfold setSource
    split
    · intro heq
      exact hne.1 (Option.some.inj heq).symm
    next hplain =>
      intro heq
      cases Option.some.inj heq
      exact hplain (by simp [hd, hne.2])

theorem set?_source (negated : Bool) (body : List Char) :
    Regex.set? ((if negated then ['^'] else []) ++ (body.flatMap setSource ++ ']' :: rest)) =
      (bracketSet? body).map fun set => (fun c => set c != negated, rest) := by
  have hlisted : Regex.set? ((if negated then ['^'] else []) ++
      (body.flatMap setSource ++ ']' :: rest)) =
        Regex.listedSet? negated (body.flatMap setSource ++ ']' :: rest) := by
    cases negated with
    | true => rfl
    | false => exact Regex.set?_of_head? (head?_setSource rfl (by decide) (by simp))
  rw [hlisted]
  unfold Regex.listedSet? bracketSet?
  rw [setItems?_source]
  cases body.mapM setItem? with
  | none => rfl
  | some items =>
    cases items with
    | nil => rfl
    | cons item items => rfl

/-! ## Reading back -/

theorem read?_one :
    read? (oneSource ++ rest) frame outer = read? rest (frame.add (.one notSeparator)) outer :=
  Regex.read?_set set?_separator

theorem read?_integer :
    read? (integerSource ++ rest) frame outer =
      read? rest (frame.add (.group signedDigits)) outer := by
  show read? ('(' :: '[' :: '+' :: '-' :: ']' :: '?' :: '[' :: '0' :: '-' :: '9' :: ']' :: '+' ::
    ')' :: rest) frame outer = _
  rw [Regex.read?_capture (by simp), Regex.read?_set set?_sign,
    Regex.read?_repetition rfl rfl rfl, Regex.read?_set set?_digit,
    Regex.read?_repetition rfl rfl rfl, Regex.read?_close]
  rfl

theorem read?_directories (hrest : Regex.startsRepetition rest = false) :
    read? ('(' :: '?' :: ':' :: '.' :: '*' :: '/' :: ')' :: '?' :: rest) frame outer =
      read? rest (frame.add (.optional (.sequence [.many Regex.notLineFeed, .symbol '/'])))
        outer := by
  rw [Regex.read?_open, Regex.read?_dot, Regex.read?_repetition rfl rfl rfl,
    Regex.read?_plain rfl, Regex.read?_close, Regex.read?_repetition rfl hrest rfl]
  rfl

/-- The text of a piece does not start with a repetition. -/
theorem startsRepetition_source (piece : Piece) (rest : List Char) :
    Regex.startsRepetition (piece.source ++ rest) = false := by
  cases piece with
  | char c =>
    rw [Piece.source]
    unfold Regex.escape
    split
    · rfl
    next hmeta =>
      cases hrepetition : Regex.isRepetition c with
      | false => exact hrepetition
      | true =>
        simp only [Regex.isRepetition, Bool.or_eq_true, beq_iff_eq] at hrepetition
        rcases hrepetition with (rfl | rfl) | rfl <;> exact absurd rfl hmeta
  | one | star | anything | directories | bracket | range | either => rw [Piece.source]; rfl

theorem startsRepetition_patternSource (pattern : Pattern)
    (hrest : Regex.startsRepetition rest = false) :
    Regex.startsRepetition (patternSource pattern ++ rest) = false := by
  cases pattern with
  | nil => exact hrest
  | cons piece pattern =>
    rw [patternSource, List.append_assoc]
    exact startsRepetition_source piece _

mutual

theorem read?_source (piece : Piece) (rest : List Char) (frame : Frame) (outer : List Frame)
    (hrest : Regex.startsRepetition rest = false) :
    read? (piece.source ++ rest) frame outer =
      piece.regex?.bind fun regex => read? rest (frame.add regex) outer := by
  match piece with
  | .char c =>
    rw [Piece.source, Piece.regex?]
    exact Regex.read?_escape c
  | .one =>
    rw [Piece.source, Piece.regex?]
    exact read?_one
  | .star =>
    rw [Piece.source, Piece.regex?, List.append_assoc, read?_one]
    exact Regex.read?_repetition rfl hrest rfl
  | .anything =>
    rw [Piece.source, Piece.regex?]
    exact Regex.read?_dot.trans (Regex.read?_repetition rfl hrest rfl)
  | .directories =>
    rw [Piece.source, Piece.regex?]
    exact read?_directories hrest
  | .bracket negated body =>
    have hset := @set?_source rest negated body
    rw [Piece.source, Piece.regex?]
    simp only [List.cons_append, List.append_assoc, List.nil_append]
    cases hbracket : bracketSet? body with
    | none =>
      rw [hbracket] at hset
      exact Regex.read?_set_none hset
    | some set =>
      rw [hbracket] at hset
      exact Regex.read?_set hset
  | .range low high =>
    rw [Piece.source, Piece.regex?]
    exact read?_integer
  | .either parts =>
    have hparts := read?_partsSource parts [] rest frame outer
    rw [Piece.source, Piece.regex?]
    simp only [List.cons_append, List.nil_append, List.append_assoc]
    rw [Regex.read?_open]
    refine hparts.trans ?_
    cases partsRegexes? parts <;> rfl

theorem read?_patternSource (pattern : List Piece) (rest : List Char) (frame : Frame)
    (outer : List Frame) (hrest : Regex.startsRepetition rest = false) :
    read? (patternSource pattern ++ rest) frame outer =
      (patternRegexes? pattern).bind fun items =>
        read? rest { frame with items := items.reverse ++ frame.items } outer := by
  match pattern with
  | [] =>
    rw [patternSource, patternRegexes?]
    rfl
  | piece :: pieces =>
    rw [patternSource, patternRegexes?, List.append_assoc,
      read?_source piece _ frame outer (startsRepetition_patternSource pieces hrest)]
    cases piece.regex? with
    | none => rfl
    | some first =>
      have hpieces := read?_patternSource pieces rest (frame.add first) outer hrest
      rw [Option.bind_some, hpieces]
      cases patternRegexes? pieces with
      | none => rfl
      | some others => simp [Frame.add]

theorem read?_partsSource (parts : List (List Piece)) (choices : List (Regex Char))
    (rest : List Char) (parent : Frame) (outer : List Frame) :
    read? (partsSource parts ++ ')' :: rest) { choices := choices } (parent :: outer) =
      (partsRegexes? parts).bind fun list =>
        read? rest (parent.add (.choice (choices.reverse ++ list))) outer := by
  match parts with
  | [] =>
    rw [partsSource, partsRegexes?, List.nil_append, Regex.read?_close]
    simp [Frame.regex, Regex.sequence]
  | [part] =>
    rw [partsSource, partsRegexes?, read?_patternSource part _ _ _ rfl]
    cases patternRegexes? part with
    | none => rfl
    | some items =>
      rw [Option.bind_some, Regex.read?_close]
      simp [Frame.regex]
  | part :: other :: parts =>
    -- The parts so far are kept with the frame, so the statement is for any list of them.
    have hothers := fun items : List (Regex Char) =>
      read?_partsSource (other :: parts) (.sequence items :: choices) rest parent outer
    rw [partsSource, partsRegexes?, List.append_assoc, read?_patternSource part _ _ _ rfl]
    · cases patternRegexes? part with
      | none => rfl
      | some items =>
        have hnext : Frame.next { choices := choices, items := items.reverse ++ [] } =
            { choices := .sequence items :: choices } := by
          simp [Frame.next]
        rw [Option.bind_some, List.cons_append, Regex.read?_bar, hnext, hothers]
        cases partsRegexes? (other :: parts) <;> simp
    · simp
    · simp

end

/-- **Reading the text of a pattern gives the expressions of its pieces in a row.** -/
theorem ofSource?_source (pattern : Pattern) :
    Regex.ofSource? (source pattern) = (patternRegexes? pattern).map .sequence := by
  show read? (patternSource pattern ++ ['$']) {} [] = _
  rw [read?_patternSource pattern ['$'] {} [] rfl]
  cases patternRegexes? pattern with
  | none => rfl
  | some items =>
    rw [Option.bind_some, Regex.read?_end]
    simp [Frame.regex, Regex.choice]

end StyleCheck.Section
