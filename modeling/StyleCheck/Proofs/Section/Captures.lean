import StyleCheck.Proofs.Regex.Parentheses
import StyleCheck.Proofs.Section.Basename
import StyleCheck.Proofs.Section.Compilation
import StyleCheck.Proofs.Section.Judgement

/-!
# The groups of a header's expression

**Theorem (`captures_eq_ranges`).** In the text of a header's expression the groups that report
their text are those that its ranges are written as. From left to right they are in the order of the
bounds, so that a glob judges every number by the bounds of its own range.

`Piece.parentheses` says which parentheses are written for a piece, where, and what for. These are
the parentheses that are found in the text (`Piece.marks`): characters of a header are escaped where
they would be parentheses, and bracket sets are passed over. A set has to list something for that,
since `[]` does not end a set of an expression. Those of a header do, because a closing bracket that
comes first is listed (`setsListed_parse`).

Piece by piece the parentheses of ranges come with the bounds of the same ranges (`Marks.append`),
and the numbers of groups are used for nothing but to find these again (`Judges`).
-/

namespace StyleCheck.Section

variable {c : Char} {text after body : List Char} {piece : Piece} {pattern : List Piece}
  {negated : Bool}

/-! ## What parentheses are written for -/

/-- What a parenthesis of a pattern's text is written for. -/
inductive Purpose
  /-- To report the number that a range takes. -/
  | range (low high : Int)
  /-- To hold a part together. -/
  | whole
  /-- To close either of these. -/
  | closing

namespace Purpose

/-- What the parenthesis does. -/
def parenthesis : Purpose → Regex.Parenthesis
  | range _ _ => .captures
  | whole => .groups
  | closing => .closes

/-- The bounds of the range that it is written for. -/
def bounds? : Purpose → Option (Int × Int)
  | range low high => some (low, high)
  | _ => none

end Purpose

mutual

/-- The parentheses that are written for a piece with the given text behind it, each with the text
from it on. -/
def Piece.parentheses : Piece → (after : List Char) → List (List Char × Purpose)
  | .range low high, after => [(integerSource ++ after, .range low high), (')' :: after, .closing)]
  | .directories, after =>
    [(['(', '?', ':', '.', '*', '/', ')', '?'] ++ after, .whole), (')' :: '?' :: after, .closing)]
  | .either parts, after =>
    (['(', '?', ':'] ++ (partsSource parts ++ ')' :: after), .whole) ::
      (partsParentheses parts (')' :: after) ++ [(')' :: after, .closing)])
  | _, _ => []

/-- The parentheses that are written for a pattern. -/
def patternParentheses : List Piece → (after : List Char) → List (List Char × Purpose)
  | [], _ => []
  | piece :: pieces, after =>
    piece.parentheses (patternSource pieces ++ after) ++ patternParentheses pieces after

/-- The parentheses that are written for a choice between patterns. -/
def partsParentheses : List (List Piece) → (after : List Char) → List (List Char × Purpose)
  | [], _ => []
  | [part], after => patternParentheses part after
  | part :: parts, after =>
    patternParentheses part ('|' :: (partsSource parts ++ after)) ++ partsParentheses parts after

end

/-- The parentheses without what they are written for. -/
def unmarked (list : List (List Char × Purpose)) : List (List Char × Regex.Parenthesis) :=
  list.map fun entry => (entry.1, entry.2.parenthesis)

/-- The parentheses that are written for ranges, with the bounds of these. -/
def ranges (list : List (List Char × Purpose)) : List (List Char × (Int × Int)) :=
  list.filterMap fun entry => entry.2.bounds?.map (entry.1, ·)

/-- What reports its text is what is written for ranges. -/
theorem filter_unmarked (list : List (List Char × Purpose)) :
    ((unmarked list).filter (·.2 = .captures)).map Prod.fst = (ranges list).map Prod.fst := by
  induction list with
  | nil => rfl
  | cons entry list ih =>
    obtain ⟨start, purpose⟩ := entry
    cases purpose with
    | range low high => exact congrArg (start :: ·) ih
    | whole | closing => exact ih

/-! ## Bracket sets -/

/-- However a character is written in a set, it is passed over. -/
theorem parentheses_setSource (c : Char) (rest : List Char) :
    Regex.parentheses 1 (setSource c ++ rest) = Regex.parentheses 1 rest := by
  unfold setSource
  split
  · exact Regex.parentheses_escaped
  next hplain =>
    refine Regex.parentheses_plain fun hmem => hplain ?_
    simp only [List.mem_cons, List.not_mem_nil, or_false] at hmem
    rcases hmem with rfl | rfl | rfl | rfl | rfl <;> rfl

theorem parentheses_listed (body rest : List Char) :
    Regex.parentheses 1 (body.flatMap setSource ++ rest) = Regex.parentheses 1 rest := by
  induction body with
  | nil => rfl
  | cons c body ih => rw [List.flatMap_cons, List.append_assoc, parentheses_setSource, ih]

/-- A set that lists something is passed over. -/
theorem parentheses_bracket (hne : body ≠ []) :
    Regex.parentheses 0 ((Piece.bracket negated body).source ++ after) =
      Regex.parentheses 0 after := by
  have hlisted : Regex.parentheses 1 (body.flatMap setSource ++ ']' :: after) =
      Regex.parentheses 0 after := by
    rw [parentheses_listed, Regex.parentheses_setEnd]
  -- A closing bracket or a mark that came first would mean something else.
  have hclose : (body.flatMap setSource ++ ']' :: after).head? ≠ some ']' :=
    head?_setSource rfl (by decide) (absurd · hne)
  have hnegated : (body.flatMap setSource ++ ']' :: after).head? ≠ some '^' :=
    head?_setSource rfl (by decide) (absurd · hne)
  rw [Piece.source]
  cases negated with
  | true =>
    simp only [List.cons_append, List.append_assoc, List.nil_append, if_true]
    rw [Regex.parentheses_set (by simp), Regex.parentheses_plain (by decide), hlisted]
    rintro more heq
    cases heq
    exact hclose
  | false =>
    simp only [List.cons_append, List.append_assoc, List.nil_append, Bool.false_eq_true, if_false]
    rw [Regex.parentheses_set hclose, hlisted]
    rintro more heq
    rw [heq] at hnegated
    exact absurd rfl hnegated

/-! ## Pieces -/

/-- The parentheses in a text are those of the list, whatever stands behind it. The ranges among
them have these bounds, and each of them is written where it is said to be. -/
structure Marks (text : List Char) (bounds : List (Int × Int))
    (list : List Char → List (List Char × Purpose)) : Prop where
  scanned : ∀ after, Regex.parentheses 0 (text ++ after) =
    unmarked (list after) ++ Regex.parentheses 0 after
  bounds : ∀ after, (ranges (list after)).map Prod.snd = bounds
  written : ∀ after, ∀ start ∈ ranges (list after), integerSource <+: start.1

theorem marks_plain (h : ∀ after, Regex.parentheses 0 (text ++ after) = Regex.parentheses 0 after) :
    Marks text [] fun _ => [] where
  scanned := h
  bounds _ := rfl
  written _ := by simp [ranges]

theorem Marks.append {text' : List Char} {bounds bounds' : List (Int × Int)}
    {list list' : List Char → List (List Char × Purpose)} (h : Marks text bounds list)
    (h' : Marks text' bounds' list') :
    Marks (text ++ text') (bounds ++ bounds') fun after =>
      list (text' ++ after) ++ list' after where
  scanned after := by
    rw [List.append_assoc, h.scanned, h'.scanned, ← List.append_assoc, unmarked, unmarked, unmarked,
      List.map_append]
  bounds after := by
    rw [ranges, List.filterMap_append, List.map_append]
    exact congrArg₂ _ (h.bounds _) (h'.bounds _)
  written after := by
    rw [ranges, List.filterMap_append]
    exact List.forall_mem_append.2 ⟨h.written _, h'.written _⟩

/-- The bracket sets of the pattern list something. -/
def SetsListed (pattern : List Piece) : Prop :=
  ∀ negated body, Occurs (.bracket negated body) pattern → body ≠ []

theorem marks_opening :
    Marks ['(', '?', ':'] [] fun after => [(['(', '?', ':'] ++ after, .whole)] where
  scanned _ := rfl
  bounds _ := rfl
  written _ := by simp [ranges, Purpose.bounds?]

theorem marks_closing : Marks [')'] [] fun after => [(')' :: after, .closing)] where
  scanned _ := rfl
  bounds _ := rfl
  written _ := by simp [ranges, Purpose.bounds?]

theorem marks_range (low high : Int) :
    Marks integerSource [(low, high)] fun after =>
      [(integerSource ++ after, .range low high), (')' :: after, .closing)] where
  scanned _ := rfl
  bounds _ := rfl
  written after := by simp [ranges, Purpose.bounds?]

theorem marks_directories :
    Marks Piece.directories.source [] Piece.directories.parentheses where
  scanned after := by
    rw [Piece.source, Piece.parentheses]
    rfl
  bounds after := by
    rw [Piece.parentheses]
    rfl
  written after := by
    rw [Piece.parentheses]
    simp [ranges, Purpose.bounds?]

theorem Piece.marks_plain (piece : Piece) (hrange : ∀ low high, piece ≠ .range low high)
    (hdirectories : piece ≠ .directories) (heither : ∀ parts, piece ≠ .either parts)
    (h : ∀ after, Regex.parentheses 0 (piece.source ++ after) = Regex.parentheses 0 after) :
    Marks piece.source piece.bounds piece.parentheses := by
  have hlist : piece.parentheses = fun _ => [] := by
    funext after
    rw [Piece.parentheses]
    · exact hrange
    · exact hdirectories
    · exact heither
  have hbounds : piece.bounds = [] := by
    rw [Piece.bounds]
    · exact hrange
    · exact heither
  rw [hlist, hbounds]
  exact Section.marks_plain h

mutual

theorem Piece.marks (piece : Piece) (h : SetsListed [piece]) :
    Marks piece.source piece.bounds piece.parentheses := by
  match piece with
  | .char c =>
    refine Piece.marks_plain _ nofun nofun nofun fun after => ?_
    rw [Piece.source]
    exact Regex.parentheses_escape c
  | .one =>
    refine Piece.marks_plain _ nofun nofun nofun fun after => ?_
    rw [Piece.source]
    rfl
  | .star =>
    refine Piece.marks_plain _ nofun nofun nofun fun after => ?_
    rw [Piece.source]
    rfl
  | .anything =>
    refine Piece.marks_plain _ nofun nofun nofun fun after => ?_
    rw [Piece.source]
    rfl
  | .directories => exact marks_directories
  | .bracket negated body =>
    exact Piece.marks_plain _ nofun nofun nofun
      fun after => parentheses_bracket (h negated body .head)
  | .range low high =>
    have hlist : (Piece.range low high).parentheses = fun after =>
        [(integerSource ++ after, .range low high), (')' :: after, .closing)] := by
      funext after
      rw [Piece.parentheses]
    rw [hlist, Piece.source, Piece.bounds]
    exact marks_range low high
  | .either parts =>
    have hparts := partsMarks parts fun part hpart negated body hbody =>
      h negated body (.inside hpart hbody)
    have hlist : (Piece.either parts).parentheses = fun after =>
        (['(', '?', ':'] ++ (partsSource parts ++ ')' :: after), .whole) ::
          (partsParentheses parts (')' :: after) ++ [(')' :: after, .closing)]) := by
      funext after
      rw [Piece.parentheses]
    have hgroup := marks_opening.append (hparts.append marks_closing)
    rw [hlist, Piece.source, Piece.bounds, List.append_assoc]
    simpa using hgroup

theorem patternMarks (pattern : List Piece) (h : SetsListed pattern) :
    Marks (patternSource pattern) (patternBounds pattern) (patternParentheses pattern) := by
  match pattern with
  | [] =>
    have hlist : patternParentheses [] = fun _ => [] := by
      funext after
      rw [patternParentheses]
    rw [hlist, patternSource, patternBounds]
    exact marks_plain fun _ => rfl
  | piece :: pieces =>
    have hpiece := Piece.marks piece fun negated body hbody =>
      h negated body (occurs_append.2 (.inl hbody) : Occurs _ ([piece] ++ pieces))
    have hpieces := patternMarks pieces fun negated body hbody => h negated body (.tail hbody)
    have hlist : patternParentheses (piece :: pieces) = fun after =>
        piece.parentheses (patternSource pieces ++ after) ++ patternParentheses pieces after := by
      funext after
      rw [patternParentheses]
    rw [hlist, patternSource, patternBounds]
    exact hpiece.append hpieces

theorem partsMarks (parts : List (List Piece)) (h : ∀ part ∈ parts, SetsListed part) :
    Marks (partsSource parts) (partsBounds parts) (partsParentheses parts) := by
  match parts with
  | [] =>
    have hlist : partsParentheses [] = fun _ => [] := by
      funext after
      rw [partsParentheses]
    rw [hlist, partsSource, partsBounds]
    exact marks_plain fun _ => rfl
  | [part] =>
    have hlist : partsParentheses [part] = patternParentheses part := by
      funext after
      rw [partsParentheses]
    rw [hlist, partsSource, partsBounds, partsBounds, List.append_nil]
    exact patternMarks part (h part List.mem_cons_self)
  | part :: other :: parts =>
    have hpart := patternMarks part (h part List.mem_cons_self)
    have hothers := partsMarks (other :: parts)
      fun part hmem => h part (List.mem_cons_of_mem _ hmem)
    have hbar : Marks ['|'] [] fun _ => [] := marks_plain fun _ => rfl
    have hlist : partsParentheses (part :: other :: parts) = fun after =>
        patternParentheses part ('|' :: (partsSource (other :: parts) ++ after)) ++
          partsParentheses (other :: parts) after := by
      funext after
      rw [partsParentheses]
      simp
    rw [hlist, partsSource, partsBounds]
    · exact hpart.append (hbar.append hothers)
    · simp

end

/-! ## Sets of a header -/

theorem upToBracket?_nil {rest : List Char} (h : upToBracket? text = some ([], rest)) :
    text.head? = some ']' := by
  cases text with
  | nil => cases h
  | cons c text =>
    rw [upToBracket?] at h
    split at h
    next hclose => rw [hclose]; rfl
    · split at h
      · cases h
      · obtain ⟨_, _, ⟨⟩⟩ := Option.map_eq_some_iff.1 h

/-- A bracket set lists something, because a closing bracket that comes first is listed. -/
theorem ne_nil_of_bracket? (h : bracket? text = some (negated, body, after)) : body ≠ [] := by
  unfold bracket? at h
  split at h
  split at h
  · obtain ⟨_, _, heq⟩ := Option.map_eq_some_iff.1 h
    cases heq
    exact List.cons_ne_nil _ _
  next listed hclose =>
    obtain ⟨⟨found, rest⟩, hfound, heq⟩ := Option.map_eq_some_iff.1 h
    cases heq
    rintro rfl
    obtain ⟨more, hmore⟩ := List.head?_eq_some_iff.1 (upToBracket?_nil hfound)
    exact hclose _ hmore

theorem setsListed_parse (text : List Char) : SetsListed (parse text) := by
  intro negated body h
  induction text using parse.induct with
  | case1 =>
    rw [parse_nil] at h
    cases h
  | case2 c rest ih =>
    rw [parse_escaped] at h
    cases h with
    | tail h => exact ih h
  | case3 rest ih =>
    rw [parse_directories] at h
    cases h with
    | tail h => exact ih h
  | case4 rest hnext ih =>
    rw [parse_anything (head?_ne hnext)] at h
    cases h with
    | tail h => exact ih h
  | case5 rest _ hnext ih =>
    rw [parse_star (head?_ne hnext)] at h
    cases h with
    | tail h => exact ih h
  | case6 rest ih =>
    rw [parse_one] at h
    cases h with
    | tail h => exact ih h
  | case7 rest _ _ after hfound ih =>
    rw [parse_bracket hfound] at h
    cases h with
    | head => exact ne_nil_of_bracket? hfound
    | tail h => exact ih h
  | case8 rest hfound ih =>
    rw [parse_openBracket hfound] at h
    cases h with
    | tail h => exact ih h
  | case9 rest _ after hfound hbody hparts hafter =>
    rcases occurs_group hfound h with h | ⟨part, hpart, h⟩ | h | h | h | ⟨_, _, h⟩ | ⟨_, h⟩
    · exact hbody h
    · exact hparts part hpart h
    · exact hafter h
    all_goals cases h
  | case10 rest hfound ih =>
    rw [parse_unbalanced hfound] at h
    cases h with
    | tail h => exact ih h
  | case11 c rest hescape _ _ hstar hone hset hgroup ih =>
    rw [parse_char hstar hone hset hgroup (eq_nil_of_escape hescape)] at h
    cases h with
    | tail h => exact ih h

/-! ## Headers -/

/-- The parentheses of a header's expression, with what they are written for. -/
def headerParentheses (header : List Char) : List (List Char × Purpose) :=
  patternParentheses (ofHeader header) ['$']

theorem marks_ofHeader (header : List Char) :
    Marks (patternSource (ofHeader header)) (patternBounds (ofHeader header))
      (patternParentheses (ofHeader header)) := by
  rw [ofHeader_eq_parse]
  exact patternMarks _ (setsListed_parse _)

theorem parentheses_source (header : List Char) :
    Regex.parentheses 0 (source (ofHeader header)) = unmarked (headerParentheses header) := by
  have hstart : Regex.parentheses 0 (source (ofHeader header)) =
      Regex.parentheses 0 (patternSource (ofHeader header) ++ ['$']) :=
    Regex.parentheses_plain (by decide)
  rw [hstart, (marks_ofHeader header).scanned]
  exact List.append_nil _

/-- **The groups that report their text are those of the ranges, in the order of the bounds.** -/
theorem captures_eq_ranges (header : List Char) :
    Regex.parentheses 0 (source (ofHeader header)) = unmarked (headerParentheses header) ∧
    Regex.captureStarts (source (ofHeader header)) =
      (ranges (headerParentheses header)).map Prod.fst ∧
    patternBounds (ofHeader header) = (ranges (headerParentheses header)).map Prod.snd ∧
    (∀ start ∈ ranges (headerParentheses header), integerSource <+: start.1) ∧
    ∀ glob, Glob.ofHeader? header = some glob →
      glob.bounds = patternBounds (ofHeader header) ∧ glob.regex.groups = glob.bounds.length ∧
      ∀ path, glob.isMatch path = true ↔
        ∃ way, (patternWays (ofHeader header) path).find? (fun way => way.2.isEmpty) = some way ∧
          ∀ step ∈ way.1, step.Holds := by
  have hmarks := marks_ofHeader header
  have hparentheses := parentheses_source header
  refine ⟨hparentheses, ?_, (hmarks.bounds _).symm, hmarks.written _, fun glob hglob => ?_⟩
  · rw [Regex.captureStarts, hparentheses, filter_unmarked]
  · obtain ⟨regex, hregex, rfl⟩ := Option.map_eq_some_iff.1 hglob
    rw [ofSource?_source] at hregex
    obtain ⟨items, hitems, rfl⟩ := Option.map_eq_some_iff.1 hregex
    have hjudges := patternJudges (ofHeader header) hitems
    exact ⟨rfl, hjudges.groups, fun path => hjudges.isMatch_iff_find?⟩

theorem captures_eq_ranges_nested :
    ∃ glob, Glob.ofHeader? "\x7b(,\x7b1..3\x7d\x7d[(]\x7b5..2\x7d".toList = some glob ∧
      glob.bounds = [(1, 3), (2, 5)] ∧ glob.regex.groups = 2 ∧
      (Regex.captureStarts
        (source (ofHeader "\x7b(,\x7b1..3\x7d\x7d[(]\x7b5..2\x7d".toList))).length = 2 := by
  obtain ⟨-, hstarts, hranges, -, hglobs⟩ :=
    captures_eq_ranges "\x7b(,\x7b1..3\x7d\x7d[(]\x7b5..2\x7d".toList
  have hsome :
      (Glob.ofHeader? "\x7b(,\x7b1..3\x7d\x7d[(]\x7b5..2\x7d".toList).isSome = true := by
    decide +kernel
  have hbounds : patternBounds (ofHeader "\x7b(,\x7b1..3\x7d\x7d[(]\x7b5..2\x7d".toList) =
      [(1, 3), (2, 5)] := by
    decide +kernel
  obtain ⟨glob, hglob⟩ := Option.isSome_iff_exists.1 hsome
  obtain ⟨heq, hgroups, -⟩ := hglobs glob hglob
  rw [hbounds] at hranges heq
  refine ⟨glob, hglob, heq, by rw [hgroups, heq]; rfl, ?_⟩
  rw [hstarts, List.length_map, ← List.length_map Prod.snd, ← hranges]
  rfl

end StyleCheck.Section
