import StyleCheck.Output.CodeClimate
import StyleCheck.Proofs.Text.Numeral
import StyleCheck.Proofs.Text.Split
import StyleCheck.Toml.Quoted
import Mathlib.Data.List.DropRight
import Mathlib.Data.List.Forall2

/-!
# JSON is read back

The text of a value is read with blanks and line feeds wherever JSON allows them, and every escape
of JSON but pairs of surrogates.

**Theorem (`read?_render`).** The text that is written for a value is read as that value.

What a reader leaves out and what it stops at are said for any reader (`SkipsBlanks`, `Finds`), so
that the items of an array and the fields of an object are one list to read (`list?_bracketed`). The
induction on the value then has nothing to do but to find the value in its text (`Reads`).
-/

namespace StyleCheck.Output.Json

open Toml (consChar hexDigit? numbered?)

variable {α : Type} {c closing : Char} {text rest : List Char} {texts : List (List Char)}
  {level fuel : Nat} {one? : List Char → Option (α × List Char)}

/-! ## The reader -/

/-- Whether the character may stand between the parts of a text. -/
def isBlank (c : Char) : Bool := c == ' ' || c == '\n' || c == '\r' || c == '\t'

/-- The text without the blanks in front. -/
def skipBlanks (text : List Char) : List Char := text.dropWhile isBlank

/-- The character of an escape of one letter. -/
def escaped? (c : Char) : Option Char :=
  [('"', '"'), ('\\', '\\'), ('/', '/'), ('n', '\n'), ('r', '\r'), ('t', '\t'), ('b', '\x08'),
    ('f', '\x0c')].lookup c

/-- The characters of a string, behind its opening quote. -/
def chars? : List Char → Option (List Char × List Char)
  | [] => none
  | '"' :: rest => some ([], rest)
  | '\\' :: 'u' :: a :: b :: c :: d :: rest => consChar (numbered? [a, b, c, d]) (chars? rest)
  | '\\' :: c :: rest => consChar (escaped? c) (chars? rest)
  | c :: rest => if c.toNat < 0x20 then none else consChar (some c) (chars? rest)

/-- One item or more, with commas between them, up to the closing bracket. -/
def several? (closing : Char) (one? : List Char → Option (α × List Char)) :
    Nat → List Char → Option (List α × List Char)
  | 0, _ => none
  | fuel + 1, text => do
    let (item, text) ← one? text
    match skipBlanks text with
    | ',' :: rest =>
      (several? closing one? fuel rest).map fun (items, rest) => (item :: items, rest)
    | c :: rest => if c = closing then some ([item], rest) else none
    | [] => none

/-- The items behind an opening bracket, if there are any. -/
def list? (closing : Char) (one? : List Char → Option (α × List Char)) (fuel : Nat)
    (text : List Char) : Option (List α × List Char) :=
  (several? closing one? fuel text).or
    ((Text.dropWord? [closing] (skipBlanks text)).map fun rest => ([], rest))

/-- A field of an object. -/
def field? (value? : List Char → Option (Json × List Char)) (text : List Char) :
    Option ((String × Json) × List Char) := do
  let text ← Text.dropWord? ['"'] (skipBlanks text)
  let (key, text) ← chars? text
  let text ← Text.dropWord? [':'] (skipBlanks text)
  let (value, text) ← value? text
  pure ((String.ofList key, value), text)

/-- A value. Every step into a value or behind an item takes one unit of fuel. -/
def value? : (fuel : Nat) → List Char → Option (Json × List Char)
  | 0, _ => none
  | fuel + 1, text =>
    match skipBlanks text with
    | '"' :: rest => (chars? rest).map fun (chars, rest) => (string (String.ofList chars), rest)
    | '[' :: rest =>
      (list? ']' (value? fuel) fuel rest).map fun (items, rest) => (array items, rest)
    | '\x7b' :: rest =>
      (list? '\x7d' (field? (value? fuel)) fuel rest).map fun (fields, rest) =>
        (object fields, rest)
    | rest => (Text.number? rest).map fun (n, rest) => (number n, rest)

/-- The value that the text is, with nothing but blanks behind it. -/
def read? (text : List Char) : Option Json :=
  match value? (text.length + 1) text with
  | some (value, rest) => if skipBlanks rest = [] then some value else none
  | none => none

/-! ## Strings -/

/-- The letters that are written for a character, and the character. -/
def letters : List (Char × Char) :=
  [('"', '"'), ('\\', '\\'), ('n', '\n'), ('r', '\r'), ('t', '\t'), ('b', '\x08'), ('f', '\x0c')]

/-- The digits of the number of a control character. -/
def digits (c : Char) : List Char :=
  ['0', '0', Digest.Sha256.hexDigit (c.toNat / 16), Digest.Sha256.hexDigit (c.toNat % 16)]

theorem numbered?_digits (h : c.toNat < 0x20) : numbered? (digits c) = some c := by
  have hall : ∀ n < 0x20, numbered? ['0', '0', Digest.Sha256.hexDigit (n / 16),
      Digest.Sha256.hexDigit (n % 16)] = some (Char.ofNat n) := by decide
  rw [digits, hall _ h, Char.ofNat_toNat]

/-- A character is written by a letter, by its number, or as it is. -/
theorem escape_cases (c : Char) :
    (∃ x, escape c = ['\\', x] ∧ (x, c) ∈ letters) ∨
      (escape c = '\\' :: 'u' :: digits c ∧ c.toNat < 0x20) ∨
      (escape c = [c] ∧ ¬ c.toNat < 0x20 ∧ c ≠ '"' ∧ c ≠ '\\') := by
  by_cases h : c ∈ letters.map Prod.snd
  · obtain ⟨⟨x, c⟩, hmem, rfl⟩ := List.mem_map.1 h
    have hall : ∀ p ∈ letters, escape p.2 = ['\\', p.1] := by decide
    exact .inl ⟨x, hall _ hmem, hmem⟩
  · simp only [letters, List.map_cons, List.map_nil, List.mem_cons, List.not_mem_nil, or_false,
      not_or] at h
    obtain ⟨hquote, hbackslash, hfeed, hreturn, htab, hback, hform⟩ := h
    have heq : escape c = if c.toNat < 0x20 then '\\' :: 'u' :: digits c else [c] := by
      simp only [escape, digits, if_neg, *, not_false_eq_true]
    by_cases hcontrol : c.toNat < 0x20
    · exact .inr (.inl ⟨by rw [heq, if_pos hcontrol], hcontrol⟩)
    · exact .inr (.inr ⟨by rw [heq, if_neg hcontrol], hcontrol, hquote, hbackslash⟩)

theorem chars?_letter {x : Char} (h : (x, c) ∈ letters) :
    chars? ('\\' :: x :: rest) = consChar (some c) (chars? rest) := by
  have hall : ∀ p ∈ letters, chars? ('\\' :: p.1 :: rest) = consChar (some p.2) (chars? rest) := by
    simp only [letters, List.forall_mem_cons]
    refine ⟨?_, ?_, ?_, ?_, ?_, ?_, ?_, List.forall_mem_nil _⟩ <;> (rw [chars?.eq_def]; rfl)
  exact hall _ h

theorem chars?_plain (h : ¬ c.toNat < 0x20) (hquote : c ≠ '"') (hbackslash : c ≠ '\\') :
    chars? (c :: rest) = consChar (some c) (chars? rest) := by
  rw [chars?]
  · exact if_neg h
  all_goals
    intros
    simp_all

theorem chars?_escape (c : Char) (rest : List Char) :
    chars? (escape c ++ rest) = consChar (some c) (chars? rest) := by
  rcases escape_cases c with ⟨x, heq, hx⟩ | ⟨heq, hcontrol⟩ | ⟨heq, hplain, hquote, hbackslash⟩
  · rw [heq]
    exact chars?_letter hx
  · have hread : chars? ('\\' :: 'u' :: digits c ++ rest) =
        consChar (numbered? (digits c)) (chars? rest) := rfl
    rw [heq, hread, numbered?_digits hcontrol]
  · rw [heq]
    exact chars?_plain hplain hquote hbackslash

theorem toList_quoted (s : String) :
    (quoted s).toList = '"' :: (s.toList.flatMap escape ++ ['"']) := by
  rw [quoted, String.toList_ofList]
  rfl

/-- **A string is read back.** -/
theorem chars?_flatMap_escape (text rest : List Char) :
    chars? (text.flatMap escape ++ '"' :: rest) = some (text, rest) := by
  induction text with
  | nil => rfl
  | cons c text ih =>
    rw [List.flatMap_cons, List.append_assoc, chars?_escape, ih]
    rfl

/-! ## Readers -/

/-- The brackets that end a list. -/
def closings : List Char := [']', '\x7d']

/-- Blanks in front of what is read make no difference, and nothing is read from a bracket that
ends a list. -/
structure IsReader (one? : List Char → Option (α × List Char)) : Prop where
  skips : ∀ text, one? (skipBlanks text) = one? text
  stops : ∀ closing ∈ closings, ∀ rest, one? (closing :: rest) = none

theorem closing_cases (h : closing ∈ closings) : closing = ']' ∨ closing = '\x7d' := by
  simpa [closings] using h

/-- The reader takes the item from the text, unless that goes on with a digit. -/
def Finds (one? : List Char → Option (α × List Char)) (text : List Char) (item : α) : Prop :=
  ∀ rest : List Char, (∀ c ∈ rest.head?, c.isDigit = false) →
    one? (text ++ rest) = some (item, rest)

theorem skipBlanks_cons (h : isBlank c = false) : skipBlanks (c :: rest) = c :: rest :=
  List.dropWhile_cons_of_neg (by simp [h])

theorem skipBlanks_closing (h : closing ∈ closings) :
    skipBlanks (closing :: rest) = closing :: rest := by
  rcases closing_cases h with rfl | rfl <;> rfl

theorem toList_newLine (level : Nat) :
    (newLine level).toList = '\n' :: List.replicate (2 * level) ' ' := by
  simp [newLine]

theorem skipBlanks_newLine (level : Nat) (rest : List Char) :
    skipBlanks ((newLine level).toList ++ rest) = skipBlanks rest := by
  refine List.dropWhile_append_of_pos fun c hc => ?_
  rw [toList_newLine] at hc
  rcases List.mem_cons.1 hc with rfl | hc
  · rfl
  · rw [List.eq_of_mem_replicate hc]
    rfl

theorem isDigit_head?_newLine (level : Nat) (rest : List Char) :
    ∀ c ∈ ((newLine level).toList ++ rest).head?, c.isDigit = false := by
  simp [toList_newLine]

theorem isReader_value? (fuel : Nat) : IsReader (value? fuel) where
  skips text := by
    cases fuel with
    | zero => rfl
    | succ fuel => rw [value?, value?, skipBlanks, skipBlanks, List.dropWhile_idempotent]
  stops closing hclosing rest := by
    cases fuel with
    | zero => rfl
    | succ fuel =>
      rw [value?, skipBlanks_closing hclosing]
      rcases closing_cases hclosing with rfl | rfl <;> rfl

theorem isReader_field? (value? : List Char → Option (Json × List Char)) :
    IsReader (field? value?) where
  skips text := by
    rw [field?, field?, skipBlanks, skipBlanks, List.dropWhile_idempotent]
  stops closing hclosing rest := by
    rw [field?, skipBlanks_closing hclosing]
    rcases closing_cases hclosing with rfl | rfl <;> rfl

/-! ## Brackets -/

theorem several?_newLine (h : IsReader one?) (level : Nat) (text : List Char) :
    several? closing one? fuel ((newLine level).toList ++ text) =
      several? closing one? fuel text := by
  cases fuel with
  | zero => rfl
  | succ fuel => rw [several?, several?, ← h.skips, skipBlanks_newLine, h.skips]

theorem several?_comma {item : α} {text more : List Char}
    (hitem : one? text = some (item, ',' :: more)) :
    several? closing one? (fuel + 1) text =
      (several? closing one? fuel more).map fun (items, rest) => (item :: items, rest) := by
  rw [several?, hitem]
  rfl

theorem several?_closing {item : α} {text more : List Char} (hclosing : closing ∈ closings)
    (hitem : one? text = some (item, more)) (hmore : skipBlanks more = closing :: rest) :
    several? closing one? (fuel + 1) text = some ([item], rest) := by
  rw [several?, hitem]
  simp only [Option.bind_eq_bind, Option.bind_some, hmore]
  rcases closing_cases hclosing with rfl | rfl <;> rfl

/-- Items on lines of their own are read up to the closing bracket. -/
theorem several?_intercalate {items : List α} (level : Nat) (rest : List Char)
    (hreader : IsReader one?) (hclosing : closing ∈ closings)
    (h : List.Forall₂ (Finds one?) texts items) (hne : texts ≠ []) (hfuel : texts.length ≤ fuel) :
    several? closing one? fuel ((',' :: (newLine (level + 1)).toList).intercalate texts ++
      ((newLine level).toList ++ closing :: rest)) = some (items, rest) := by
  induction h generalizing fuel with
  | nil => exact absurd rfl hne
  | @cons text item texts items hitem hitems ih =>
    obtain ⟨fuel, rfl⟩ := Nat.exists_eq_succ_of_ne_zero (Nat.ne_zero_of_lt hfuel)
    cases hitems with
    | nil =>
      -- Behind the last item comes the line of the closing bracket.
      rw [List.intercalate_singleton]
      refine several?_closing hclosing (hitem _ (isDigit_head?_newLine _ _)) ?_
      rw [skipBlanks_newLine, skipBlanks_closing hclosing]
    | @cons next _ others _ hnext hothers =>
      -- Behind any other item comes a comma, and then the line of the next item.
      have hcomma : (',' :: (newLine (level + 1)).toList).intercalate (text :: next :: others) ++
          ((newLine level).toList ++ closing :: rest) =
          text ++ (',' :: ((newLine (level + 1)).toList ++
            ((',' :: (newLine (level + 1)).toList).intercalate (next :: others) ++
              ((newLine level).toList ++ closing :: rest)))) := by
        rw [List.intercalate_cons_cons]
        simp only [List.append_assoc, List.cons_append]
      rw [hcomma, several?_comma (hitem _ (by simp)), several?_newLine hreader,
        ih (List.cons_ne_nil _ _) (Nat.le_of_succ_le_succ hfuel)]
      rfl

/-- What stands behind an opening bracket. -/
def inner (closing : Char) (level : Nat) (texts : List String) : List Char :=
  if texts.isEmpty then [closing]
  else (newLine (level + 1)).toList ++
    ((',' :: (newLine (level + 1)).toList).intercalate (texts.map String.toList) ++
      ((newLine level).toList ++ [closing]))

theorem toList_bracketed (opening closing : Char) (level : Nat) (texts : List String) :
    (bracketed (String.singleton opening) (String.singleton closing) level texts).toList =
      opening :: inner closing level texts := by
  unfold bracketed inner
  split
  · simp
  · simp [String.toList_intercalate]

theorem length_le_length_intercalate {separator : List Char} (texts : List (List Char))
    (hne : separator ≠ []) :
    texts.length ≤ (separator.intercalate texts).length + 1 ∧
      ∀ text ∈ texts, text.length ≤ (separator.intercalate texts).length := by
  have hpos := List.length_pos_of_ne_nil hne
  induction texts with
  | nil => simp
  | cons first texts ih =>
    cases texts with
    | nil => simp
    | cons next texts =>
      obtain ⟨hcount, hall⟩ := ih
      rw [List.intercalate_cons_cons]
      simp only [List.length_append, List.length_cons] at hcount ⊢
      refine ⟨by omega, List.forall_mem_cons.2 ⟨by omega, fun text hmem => ?_⟩⟩
      have hle := hall text hmem
      omega

/-- There is room in the text of a list for each item, and for as many steps as there are items. -/
theorem length_le_length_inner (closing : Char) (level : Nat) (texts : List String) :
    texts.length ≤ (inner closing level texts).length ∧
      ∀ text ∈ texts, text.toList.length < (inner closing level texts).length := by
  unfold inner
  split
  next hempty =>
    rw [List.isEmpty_iff.1 hempty]
    simp
  · obtain ⟨hcount, hall⟩ := length_le_length_intercalate (texts.map String.toList)
      (List.cons_ne_nil ',' (newLine (level + 1)).toList)
    simp only [List.length_append, List.length_map, List.length_singleton] at hcount ⊢
    refine ⟨by omega, fun text hmem => ?_⟩
    have hle := hall _ (List.mem_map_of_mem hmem)
    omega

/-- A reader with fuel takes the item from the text if there is more fuel than text. -/
def FindsWithin (one? : Nat → List Char → Option (α × List Char)) (text : List Char) (item : α) :
    Prop :=
  ∀ fuel, text.length < fuel → Finds (one? fuel) text item

theorem list?_inner (rest : List Char) {one? : Nat → List Char → Option (α × List Char)}
    {texts : List String} {items : List α} (hreader : ∀ fuel, IsReader (one? fuel))
    (hclosing : closing ∈ closings)
    (h : List.Forall₂ (fun text item => FindsWithin one? text.toList item) texts items)
    (hfuel : (inner closing level texts).length ≤ fuel) :
    list? closing (one? fuel) fuel (inner closing level texts ++ rest) = some (items, rest) := by
  obtain ⟨hcount, hlength⟩ := length_le_length_inner closing level texts
  have hfound : List.Forall₂ (Finds (one? fuel)) (texts.map String.toList) items := by
    rw [List.forall₂_map_left_iff]
    refine ((List.forall₂_and_left _ _).2 ⟨hlength, h⟩).imp fun text item hitem => ?_
    exact hitem.2 fuel (Nat.lt_of_lt_of_le hitem.1 hfuel)
  unfold list? inner
  cases texts with
  | nil =>
    cases h
    -- An item cannot be read off a closing bracket, so the list is taken to be empty.
    have hnone : several? closing (one? fuel) fuel (closing :: rest) = none := by
      cases fuel with
      | zero => rfl
      | succ fuel =>
        rw [several?, (hreader _).stops closing hclosing]
        rfl
    simp [hnone, skipBlanks_closing hclosing, Text.dropWord?]
  | cons text texts =>
    have hread := several?_intercalate level rest (hreader fuel) hclosing hfound
      (List.cons_ne_nil _ _) (by simpa using Nat.le_trans hcount hfuel)
    simp only [List.isEmpty_cons, Bool.false_eq_true, if_false, List.append_assoc,
      List.cons_append, List.nil_append, several?_newLine (hreader fuel), hread, Option.some_or]

/-! ## Values -/

/-- The text is read as the value. -/
abbrev Reads : List Char → Json → Prop := FindsWithin value?

/-- The text is read as the field. -/
abbrev ReadsField : List Char → String × Json → Prop := FindsWithin fun fuel => field? (value? fuel)

theorem reads_string (s : String) : Reads (quoted s).toList (string s) := by
  intro fuel hfuel rest hrest
  obtain ⟨fuel, rfl⟩ := Nat.exists_eq_succ_of_ne_zero (Nat.ne_zero_of_lt hfuel)
  rw [toList_quoted, value?, List.cons_append, skipBlanks_cons rfl, List.append_assoc]
  simp [chars?_flatMap_escape]

theorem value?_digit (h : c.isDigit = true) :
    value? (fuel + 1) (c :: rest) =
      (Text.number? (c :: rest)).map fun (n, rest) => (number n, rest) := by
  have hne : ∀ d : Char, d.isDigit = false → c ≠ d := by
    rintro d hd rfl
    rw [hd] at h
    cases h
  have hblank : isBlank c = false := by
    simp [isBlank, hne ' ' rfl, hne '\n' rfl, hne '\r' rfl, hne '\t' rfl]
  rw [value?, skipBlanks_cons hblank]
  split
  next heq => exact absurd (List.cons.inj heq).1 (hne '"' rfl)
  next heq => exact absurd (List.cons.inj heq).1 (hne '[' rfl)
  next heq => exact absurd (List.cons.inj heq).1 (hne '\x7b' rfl)
  · rfl

theorem reads_number (n : Nat) : Reads (toString n).toList (number n) := by
  intro fuel hfuel rest hrest
  obtain ⟨fuel, rfl⟩ := Nat.exists_eq_succ_of_ne_zero (Nat.ne_zero_of_lt hfuel)
  have hne : (toString n).toList ≠ [] := by
    rw [Nat.toString_eq_ofList_toDigits, String.toList_ofList]
    exact Nat.toDigits_ne_nil
  obtain ⟨c, cs, hcs⟩ := List.exists_cons_of_ne_nil hne
  have hc : c.isDigit = true := Text.isDigit_of_mem_toString (hcs ▸ List.mem_cons_self)
  have hread := Text.number?_append n rest hrest
  rw [hcs, List.cons_append] at hread ⊢
  rw [value?_digit hc, hread]
  rfl

theorem reads_array {texts : List String} {items : List Json}
    (h : List.Forall₂ (fun text item => Reads text.toList item) texts items) :
    Reads (bracketed "[" "]" level texts).toList (array items) := by
  intro fuel hfuel rest hrest
  obtain ⟨fuel, rfl⟩ := Nat.exists_eq_succ_of_ne_zero (Nat.ne_zero_of_lt hfuel)
  have heq : (bracketed "[" "]" level texts).toList = '[' :: inner ']' level texts :=
    toList_bracketed '[' ']' level texts
  rw [heq] at hfuel ⊢
  have hread := list?_inner rest isReader_value? (by decide : ']' ∈ closings) h
    (Nat.le_of_lt_succ (Nat.lt_of_succ_lt hfuel))
  rw [value?, List.cons_append, skipBlanks_cons rfl]
  simp only [hread, Option.map_some]

theorem reads_field (key : String) {text : String} {value : Json} (h : Reads text.toList value) :
    ReadsField (quoted key ++ ": " ++ text).toList (key, value) := by
  intro fuel hfuel rest hrest
  have hread := h fuel (by simp only [String.toList_append, List.length_append] at hfuel; omega)
    rest hrest
  -- The blank behind the colon is left out by the reader of the value.
  have hblank : value? fuel (' ' :: (text.toList ++ rest)) = some (value, rest) := by
    rw [← (isReader_value? fuel).skips, skipBlanks, List.dropWhile_cons_of_pos rfl, ← skipBlanks,
      (isReader_value? fuel).skips, hread]
  have heq : (quoted key ++ ": " ++ text).toList ++ rest =
      '"' :: (key.toList.flatMap escape ++ '"' :: ':' :: ' ' :: (text.toList ++ rest)) := by
    simp [toList_quoted]
  show field? (value? fuel) _ = _
  rw [heq, field?, skipBlanks_cons rfl]
  simp [Text.dropWord?, chars?_flatMap_escape, skipBlanks_cons, isBlank, hblank]

theorem reads_object {texts : List String} {fields : List (String × Json)}
    (h : List.Forall₂ (fun text field => ReadsField text.toList field) texts fields) :
    Reads (bracketed "\x7b" "\x7d" level texts).toList (object fields) := by
  intro fuel hfuel rest hrest
  obtain ⟨fuel, rfl⟩ := Nat.exists_eq_succ_of_ne_zero (Nat.ne_zero_of_lt hfuel)
  have heq : (bracketed "\x7b" "\x7d" level texts).toList = '\x7b' :: inner '\x7d' level texts :=
    toList_bracketed '\x7b' '\x7d' level texts
  rw [heq] at hfuel ⊢
  have hread := list?_inner rest (fun fuel => isReader_field? (value? fuel))
    (by decide : '\x7d' ∈ closings) h (Nat.le_of_lt_succ (Nat.lt_of_succ_lt hfuel))
  rw [value?, List.cons_append, skipBlanks_cons rfl]
  simp only [hread, Option.map_some]

mutual

theorem reads_render (level : Nat) (json : Json) : Reads (json.render level).toList json := by
  match json with
  | .string s =>
    rw [render]
    exact reads_string s
  | .number n =>
    rw [render]
    exact reads_number n
  | .array items =>
    rw [render]
    exact reads_array (readsItems level items)
  | .object fields =>
    rw [render]
    exact reads_object (readsFields level fields)

theorem readsItems (level : Nat) (items : List Json) :
    List.Forall₂ (fun text item => Reads text.toList item) (renderItems level items) items := by
  match items with
  | [] =>
    rw [renderItems]
    exact .nil
  | item :: items =>
    rw [renderItems]
    exact .cons (reads_render (level + 1) item) (readsItems level items)

theorem readsFields (level : Nat) (fields : List (String × Json)) :
    List.Forall₂ (fun text field => ReadsField text.toList field) (renderFields level fields)
      fields := by
  match fields with
  | [] =>
    rw [renderFields]
    exact .nil
  | (key, value) :: fields =>
    rw [renderFields]
    exact .cons (reads_field key (reads_render (level + 1) value)) (readsFields level fields)

end

/-- **A value is read back**, with blanks behind it or without. -/
theorem read?_render (json : Json) (hrest : rest.all isBlank = true) :
    read? ((json.render 0).toList ++ rest) = some json := by
  have hdigit : ∀ c ∈ rest.head?, c.isDigit = false := by
    intro c hc
    have hblank := List.all_eq_true.1 hrest c (List.mem_of_mem_head? hc)
    simp only [isBlank, Bool.or_eq_true, beq_iff_eq] at hblank
    rcases hblank with ((rfl | rfl) | rfl) | rfl <;> rfl
  have hread := reads_render 0 json ((json.render 0).toList ++ rest).length.succ
    (by rw [List.length_append]; omega) rest hdigit
  have hskip : skipBlanks rest = [] := by
    rw [skipBlanks, List.dropWhile_eq_nil_iff]
    exact List.all_eq_true.1 hrest
  rw [read?, hread]
  exact if_pos hskip

end StyleCheck.Output.Json
