import Mathlib.Data.List.Infix
import StyleCheck.Regex.Basic

/-!
# All ways to match, in order

`r.ways group text` lists every way in which an expression takes a word off a text, the preferred
way first: the captures it makes, and what it leaves of the text.

**Theorem (`captures?_eq`).** The captures that are reported are those of the first way that
leaves nothing.

The computation goes from the right and keeps one entry per suffix of the text. So a table is the
image of the suffixes under a function, and an expression composes that function with its own ways:
from a suffix, take the first way that can be carried on (`table_tails`).
-/

namespace StyleCheck.Regex

variable {σ α : Type} {set : σ → Bool} {size group : Nat} {s text rest : List σ}

/-! ## Ways -/

/-- What is left behind blocks of symbols of a set, for each number of blocks, more blocks
first. -/
def afterBlocks (set : σ → Bool) (size : Nat) (s : List σ) : List (List σ) :=
  (List.range ((s.takeWhile set).length / size + 1)).reverse.map fun n => s.drop (n * size)

/-- The ways in which the expression takes a word off the text, the preferred way first. The groups
of the expression are numbered from `group` on. -/
def ways : Regex σ → (group : Nat) → List σ → List (Found σ (List σ))
  | .empty, _, s => [([], s)]
  | .one _, _, [] => []
  | .one set, _, c :: cs => if set c then [([], cs)] else []
  | .blocks set size, _, s => (afterBlocks set size s).map ([], ·)
  | .atEnd, _, s => if s.isEmpty then [([], s)] else []
  | .seq a b, g, s =>
    (a.ways g s).flatMap fun first =>
      (b.ways (g + a.groups) first.2).map fun second => (first.1 ++ second.1, second.2)
  | .alt a b, g, s => a.ways g s ++ b.ways (g + a.groups) s
  | .group a, g, s =>
    (a.ways (g + 1) s).map fun way => (⟨g, s.take (s.length - way.2.length)⟩ :: way.1, way.2)

theorem groups_sequence_append (items others : List (Regex σ)) :
    (sequence (items ++ others)).groups = (seq (sequence items) (sequence others)).groups := by
  induction items with
  | nil => simp [sequence, groups]
  | cons a items ih =>
    rw [List.cons_append, sequence, sequence, groups, ih]
    simp [groups, Nat.add_assoc]

theorem ways_sequence_append (items others : List (Regex σ)) (group : Nat) (text : List σ) :
    (sequence (items ++ others)).ways group text =
      (seq (sequence items) (sequence others)).ways group text := by
  induction items generalizing group text with
  | nil => simp [sequence, ways, groups]
  | cons a items ih =>
    simp only [List.cons_append, sequence, ways, ih, groups, List.flatMap_assoc, List.map_flatMap,
      List.flatMap_map, List.map_map, Function.comp_def, List.append_assoc, Nat.add_assoc]

theorem suffix_of_mem_afterBlocks (h : rest ∈ afterBlocks set size s) : rest <:+ s := by
  obtain ⟨n, -, rfl⟩ := List.mem_map.1 h
  exact List.drop_suffix _ _

/-- A way leaves a suffix of the text. -/
theorem suffix_of_mem_ways {r : Regex σ} {way : Found σ (List σ)} (h : way ∈ r.ways group s) :
    way.2 <:+ s := by
  induction r generalizing group s way with
  | empty =>
    cases List.mem_singleton.1 h
    exact List.suffix_refl s
  | one set =>
    cases s with
    | nil => cases h
    | cons c cs =>
      rw [ways] at h
      split at h
      · cases List.mem_singleton.1 h
        exact List.suffix_cons c cs
      · cases h
  | blocks set size =>
    obtain ⟨rest, hrest, rfl⟩ := List.mem_map.1 h
    exact suffix_of_mem_afterBlocks hrest
  | atEnd =>
    rw [ways] at h
    split at h
    · cases List.mem_singleton.1 h
      exact List.suffix_refl s
    · cases h
  | seq a b iha ihb =>
    obtain ⟨first, hfirst, hway⟩ := List.mem_flatMap.1 h
    obtain ⟨second, hsecond, rfl⟩ := List.mem_map.1 hway
    exact (ihb hsecond).trans (iha hfirst)
  | alt a b iha ihb =>
    rcases List.mem_append.1 h with h | h
    · exact iha h
    · exact ihb h
  | group a iha =>
    obtain ⟨inner, hinner, rfl⟩ := List.mem_map.1 h
    exact @iha (group + 1) s inner hinner

/-! ## Carrying on -/

/-- The first of the ways that can be carried on from what it leaves. -/
def carryOn (k : List σ → Option (Found σ α)) (ways : List (Found σ (List σ))) :
    Option (Found σ α) :=
  ways.findSome? fun way => (k way.2).map fun found => (way.1 ++ found.1, found.2)

variable {k : List σ → Option (Found σ α)}

theorem carryOn_here : carryOn k [([], s)] = k s := by
  cases h : k s <;> simp [carryOn, h]

theorem carryOn_cons (way : Found σ (List σ)) (ways : List (Found σ (List σ))) :
    carryOn k (way :: ways) =
      ((k way.2).map fun found => (way.1 ++ found.1, found.2)).or (carryOn k ways) := by
  cases h : k way.2 <;> simp [carryOn, h]

theorem carryOn_append (first second : List (Found σ (List σ))) :
    carryOn k (first ++ second) = (carryOn k first).or (carryOn k second) :=
  List.findSome?_append

/-- Carrying on by a second expression and then as before is carrying on from both in a row. -/
theorem carryOn_flatMap (first : List (Found σ (List σ)))
    (second : List σ → List (Found σ (List σ))) :
    carryOn k (first.flatMap fun way =>
      (second way.2).map fun next => (way.1 ++ next.1, next.2)) =
        carryOn (fun s => carryOn k (second s)) first := by
  induction first with
  | nil => rfl
  | cons way first ih =>
    have hway : carryOn k ((second way.2).map fun next => (way.1 ++ next.1, next.2)) =
        (carryOn k (second way.2)).map fun found => (way.1 ++ found.1, found.2) := by
      unfold carryOn
      rw [List.findSome?_map, List.map_findSome?]
      congr 1
      funext next
      cases h : k next.2 <;> simp [h]
    rw [List.flatMap_cons, carryOn_append, hway, ih, carryOn_cons]

/-! ## Tables -/

namespace Table

theorem head_tails (f : List σ → Option α) : (text.tails.map f).head?.join = f text := by
  cases text <;> rfl

theorem drop_tails {n : Nat} (h : n ≤ text.length) : text.tails.drop n = (text.drop n).tails := by
  induction text generalizing n with
  | nil =>
    cases Nat.le_zero.1 h
    rfl
  | cons c cs ih =>
    cases n with
    | zero => rfl
    | succ n =>
      rw [List.tails_cons, List.drop_succ_cons, List.drop_succ_cons]
      exact ih (Nat.le_of_succ_le_succ h)

theorem consume_tails (f : List σ → Option α) :
    consume set text (text.tails.map f) = text.tails.map fun
      | [] => none
      | c :: cs => if set c then f cs else none := by
  induction text with
  | nil => rfl
  | cons c cs ih =>
    rw [List.tails_cons, List.map_cons, List.map_cons, consume, head_tails, ih]

theorem atEnd_tails (f : List σ → Option α) :
    atEnd (text.tails.map f) = text.tails.map fun s => if s.isEmpty then f s else none := by
  induction text with
  | nil => rfl
  | cons c cs ih =>
    rw [List.tails_cons, List.map_cons, List.map_cons, ← ih]
    cases cs <;> rfl

theorem orElse_tails (f g : List σ → Option α) :
    orElse (text.tails.map f) (text.tails.map g) =
      text.tails.map fun s => (f s).or (g s) := by
  rw [orElse, List.zipWith_map, List.zipWith_self]

/-- Where a suffix starts is known from its length. -/
theorem zipIdx_tails (f : List σ → α) (start : Nat) :
    (text.tails.map f).zipIdx start =
      text.tails.map fun s => (f s, start + (text.length - s.length)) := by
  induction text generalizing start with
  | nil => rfl
  | cons c cs ih =>
    rw [List.tails_cons, List.map_cons, List.map_cons, List.zipIdx_cons, ih, Nat.sub_self]
    refine congrArg ((f (c :: cs), start) :: ·) (List.map_congr_left fun s hs => ?_)
    have hle := ((List.mem_tails s cs).1 hs).length_le
    rw [List.length_cons]
    congr 1
    omega

/-! ### Repetition -/

theorem takeWhile_drop {n : Nat} (h : n ≤ (s.takeWhile set).length) :
    (s.drop n).takeWhile set = (s.takeWhile set).drop n := by
  induction n generalizing s with
  | zero => rfl
  | succ n ih =>
    cases s with
    | nil => rfl
    | cons c cs =>
      cases hc : set c with
      | false => simp [hc] at h
      | true =>
        rw [List.takeWhile_cons_of_pos hc] at h ⊢
        exact ih (Nat.le_of_succ_le_succ h)

/-- If a block comes next, it is taken before it is left. -/
theorem afterBlocks_of_le (hsize : 0 < size) (hle : size ≤ (s.takeWhile set).length) :
    afterBlocks set size s = afterBlocks set size (s.drop size) ++ [s] := by
  have hrun : ((s.drop size).takeWhile set).length = (s.takeWhile set).length - size := by
    rw [takeWhile_drop hle, List.length_drop]
  have hcount : (s.takeWhile set).length / size =
      ((s.takeWhile set).length - size) / size + 1 := by
    rw [Nat.div_eq_sub_div hsize hle]
  unfold afterBlocks
  rw [hrun, hcount, List.range_succ_eq_map, List.reverse_cons, List.map_append, ← List.map_reverse,
    List.map_map]
  simp [Function.comp_def, Nat.succ_mul, Nat.add_comm]

theorem afterBlocks_of_not (h : ¬ (0 < size ∧ size ≤ (s.takeWhile set).length)) :
    afterBlocks set size s = [s] := by
  have hzero : (s.takeWhile set).length / size = 0 := by
    rw [Nat.div_eq_zero_iff]
    omega
  unfold afterBlocks
  rw [hzero]
  simp

/-- The table of a repetition, and the number of symbols of the set that come next. -/
theorem repeated_tails (k : List σ → Option (Found σ α)) :
    repeated set size text (text.tails.map k) =
      ((text.takeWhile set).length,
        text.tails.map fun s => carryOn k ((afterBlocks set size s).map ([], ·))) := by
  induction text with
  | nil =>
    have hblocks : afterBlocks set size [] = [[]] :=
      afterBlocks_of_not fun h => absurd h.2 (Nat.not_le_of_lt h.1)
    simp [repeated, hblocks, carryOn_here]
  | cons c cs ih =>
    rw [List.tails_cons, List.map_cons, List.map_cons, repeated, ih]
    have hcount : (if set c then (cs.takeWhile set).length + 1 else 0) =
        ((c :: cs).takeWhile set).length := by
      rw [List.takeWhile_cons]
      cases set c <;> rfl
    simp only [hcount]
    congr 2
    -- A first block leads to the entry of the suffix behind it.
    by_cases hblock : 0 < size ∧ size ≤ ((c :: cs).takeWhile set).length
    · have hle : size - 1 ≤ cs.length := by
        have := (List.takeWhile_prefix set (l := c :: cs)).length_le
        rw [List.length_cons] at this
        omega
      have hdrop : (c :: cs).drop size = cs.drop (size - 1) := by
        obtain ⟨n, rfl⟩ := Nat.exists_eq_succ_of_ne_zero (Nat.ne_of_gt hblock.1)
        rfl
      rw [if_pos hblock, ← List.map_drop, drop_tails hle, head_tails, ← hdrop,
        afterBlocks_of_le hblock.1 hblock.2, List.map_append, carryOn_append]
      exact congrArg _ carryOn_here.symm
    · rw [if_neg hblock, afterBlocks_of_not hblock]
      exact carryOn_here.symm

end Table

/-! ## Tables of expressions -/

/-- Go on as before, and note how far from the start of the text that is. -/
def stamped (text : List σ) (k : List σ → Option (Found σ α)) (s : List σ) :
    Option (Found σ (Nat × α)) :=
  (k s).map fun found => (found.1, (text.length - s.length, found.2))

theorem stamp_tails : stamp (text.tails.map k) = text.tails.map (stamped text k) := by
  unfold stamp
  rw [Table.zipIdx_tails, List.map_map]
  refine List.map_congr_left fun s _ => ?_
  simp [stamped]

/-- Between the suffix that a group starts at and the noted one lies what the group took. -/
theorem carryOn_stamped (hs : s <:+ text) (list : List (Found σ (List σ)))
    (hlist : ∀ way ∈ list, way.2 <:+ s) :
    ((carryOn (stamped text k) list).map fun found =>
      (⟨group, (text.drop (text.length - s.length)).take
        (found.2.1 - (text.length - s.length))⟩ :: found.1, found.2.2)) =
      carryOn k (list.map fun way =>
        (⟨group, s.take (s.length - way.2.length)⟩ :: way.1, way.2)) := by
  induction list with
  | nil => rfl
  | cons way list ih =>
    have hdrop : text.drop (text.length - s.length) = s := (List.suffix_iff_eq_drop.1 hs).symm
    -- The symbols that the group took are counted from where it starts in the text.
    have hlength : text.length - way.2.length - (text.length - s.length) =
        s.length - way.2.length := by
      have := hs.length_le
      have := (hlist way List.mem_cons_self).length_le
      omega
    rw [List.map_cons, carryOn_cons, carryOn_cons, Option.map_or,
      ih fun other hmem => hlist other (List.mem_cons_of_mem _ hmem)]
    congr 1
    cases h : k way.2 <;> simp [stamped, h, hdrop, hlength]

/-- **The table of an expression takes the first way that can be carried on**, given the table of
what follows it. -/
theorem table_tails (text : List σ) (r : Regex σ) (group : Nat)
    (k : List σ → Option (Found σ α)) :
    table text r group (text.tails.map k) =
      text.tails.map fun s => carryOn k (r.ways group s) := by
  -- The table of what follows is any, so the one of a part can follow another.
  induction r generalizing α group k with
  | empty =>
    refine List.map_congr_left fun s _ => ?_
    exact carryOn_here.symm
  | one set =>
    rw [table, Table.consume_tails]
    refine List.map_congr_left fun s _ => ?_
    cases s with
    | nil => rfl
    | cons c cs =>
      cases hc : set c with
      | true => simp [ways, hc, carryOn_here]
      | false => simp [ways, hc, carryOn]
  | blocks set size =>
    rw [table, Table.repeated_tails]
    rfl
  | atEnd =>
    rw [table, Table.atEnd_tails]
    refine List.map_congr_left fun s _ => ?_
    cases s with
    | nil => exact carryOn_here.symm
    | cons c cs => rfl
  | seq a b iha ihb =>
    rw [table, ihb, iha]
    refine List.map_congr_left fun s _ => ?_
    exact (carryOn_flatMap _ _).symm
  | alt a b iha ihb =>
    rw [table, iha, ihb, Table.orElse_tails]
    refine List.map_congr_left fun s _ => ?_
    exact (carryOn_append _ _).symm
  | group a iha =>
    rw [table, stamp_tails, iha]
    unfold capture
    rw [Table.zipIdx_tails, List.map_map]
    refine List.map_congr_left fun s hs => ?_
    rw [ways, ← carryOn_stamped ((List.mem_tails s text).1 hs) _ fun way => suffix_of_mem_ways]
    simp

/-- **The captures are those of the first way that leaves nothing.** -/
theorem captures?_eq (r : Regex σ) (text : List σ) :
    r.captures? text = ((r.ways 0 text).find? fun way => way.2.isEmpty).map Prod.fst := by
  have hend : (text.foldr (fun _ table => none :: table) [some (([], ()) : Found σ Unit)]) =
      text.tails.map fun s => if s.isEmpty then some ([], ()) else none := by
    clear r
    induction text with
    | nil => rfl
    | cons c cs ih =>
      rw [List.foldr_cons, ih]
      rfl
  unfold captures?
  simp only [hend, table_tails, Table.head_tails]
  induction r.ways 0 text with
  | nil => rfl
  | cons way ways ih =>
    rw [carryOn_cons, List.find?_cons]
    cases h : way.2.isEmpty with
    | true => simp
    | false => simpa using ih

end StyleCheck.Regex
