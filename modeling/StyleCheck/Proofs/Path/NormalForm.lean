import StyleCheck.Proofs.Path.Here
import StyleCheck.Proofs.Path.Spelling
import Mathlib.Logic.Relation

/-!
# The normal form of a spelling

A path from the root is spelled by pieces between separators, and its spelling may be longer than
it need be. It is shortened by leaving out an empty piece, a `.`, a name with a `..` behind it, or
a `..` at the root (`Shortens`). A spelling that cannot be shortened is a normal form.

**Theorem (`normalForm_iff`).** Every spelling has one normal form, in whatever order it is
shortened: the names of the location that its pieces lead to.

Going through the pieces from the left is one way of shortening (`reflTransGen_foldl`), and none
changes where the pieces lead to (`foldl_eq_of_shortens`).
-/

namespace StyleCheck

namespace Path

/-- The pieces between the separators of the path. -/
def pieces (path : Path) : List (List Char) := Text.piecesAt '/' path.text.toList

/-- The pieces of a path that is taken relative to a directory. -/
def piecesIn (directory path : Path) : List (List Char) :=
  if path.isAbsolute then path.pieces else directory.pieces ++ path.pieces

/-- The spelling of a path from the root, shortened in one place. -/
inductive Shortens : List (List Char) → List (List Char) → Prop
  /-- Nothing stands between two separators. -/
  | empty (front rest : List (List Char)) : Shortens (front ++ [] :: rest) (front ++ rest)
  | here (front rest : List (List Char)) : Shortens (front ++ ['.'] :: rest) (front ++ rest)
  /-- A `..` leads back from a name. -/
  | up (front rest : List (List Char)) {name : List Char} : name ≠ [] → name ≠ ['.'] →
    name ≠ ['.', '.'] → Shortens (front ++ name :: ['.', '.'] :: rest) (front ++ rest)
  /-- At the root a `..` stays at the root. -/
  | atRoot (rest : List (List Char)) : Shortens (['.', '.'] :: rest) rest

/-- What is left of a spelling when it cannot be shortened any more. -/
structure NormalForm (pieces normal : List (List Char)) : Prop where
  reached : Relation.ReflTransGen Shortens pieces normal
  shortest : ∀ shorter, ¬ Shortens normal shorter

end Path

namespace Location

open StyleCheck.Path (IsName Shortens NormalForm componentOf)

variable {location : Location} {names : List String} {piece : List Char}
  {path other directory : Path} {pieces shorter normal : List (List Char)}

/-! ## Piece by piece -/

/-- The location one piece further. -/
def stepPiece (location : Location) (piece : List Char) : Location :=
  (componentOf false piece).elim location location.step

@[simp] theorem stepPiece_empty (location : Location) : location.stepPiece [] = location := rfl

@[simp] theorem stepPiece_here (location : Location) : location.stepPiece ['.'] = location := rfl

@[simp] theorem stepPiece_up (location : Location) :
    location.stepPiece ['.', '.'] = { location with names := location.names.dropLast } := rfl

theorem stepPiece_name (hempty : piece ≠ []) (hhere : piece ≠ ['.']) (hup : piece ≠ ['.', '.'])
    (location : Location) : location.stepPiece piece =
      { location with names := location.names ++ [String.ofList piece] } := by
  simp [stepPiece, componentOf, hempty, hhere, hup, step]

theorem foldl_stepPiece (location : Location) (pieces : List (List Char)) :
    pieces.foldl stepPiece location =
      (pieces.filterMap (componentOf false)).foldl step location := by
  induction pieces generalizing location with
  | nil => rfl
  | cons piece pieces ih =>
    rw [List.foldl_cons, ih, List.filterMap_cons]
    unfold stepPiece
    cases componentOf false piece <;> rfl

/-- No piece leads to the root. -/
theorem absolute_foldl_stepPiece (location : Location) (pieces : List (List Char)) :
    (pieces.foldl stepPiece location).absolute = location.absolute := by
  induction pieces generalizing location with
  | nil => rfl
  | cons piece pieces ih =>
    rw [List.foldl_cons, ih]
    unfold stepPiece
    cases hcomponent : componentOf false piece with
    | none => rfl
    | some component =>
      cases component with
      | root => exact absurd rfl (Path.componentOf_false_ne hcomponent).1
      | here | up | name => rfl

/-- The location of a path from the root is reached from the root piece by piece. -/
theorem ofPath_of_isAbsolute (h : path.isAbsolute = true) :
    ofPath path = path.pieces.foldl stepPiece ⟨true, []⟩ := by
  obtain ⟨text, htext⟩ := List.head?_eq_some_iff.1 (beq_iff_eq.1 h)
  have hpieces : path.pieces = [] :: Text.piecesAt '/' text := by
    rw [Path.pieces, htext]
    rfl
  have hcomponents : path.components =
      .root :: (Text.piecesAt '/' text).filterMap (componentOf false) := by
    unfold Path.components
    rw [← Path.pieces, hpieces, h]
    rfl
  rw [ofPath, hcomponents, hpieces, List.foldl_cons, List.foldl_cons, stepPiece_empty,
    foldl_stepPiece]
  rfl

/-- The same holds of a path that is taken relative to a directory. -/
theorem ofPath_join (h : directory.isAbsolute = true) :
    ofPath (directory.join path) = (directory.piecesIn path).foldl stepPiece ⟨true, []⟩ := by
  cases hpath : path.isAbsolute with
  | true =>
    have hjoin : directory.join path = path := by simp [Path.join, hpath]
    rw [hjoin, ofPath_of_isAbsolute hpath, Path.piecesIn, if_pos hpath]
  | false =>
    have hne : directory.text ≠ "" := by
      intro heq
      simp [Path.isAbsolute, heq] at h
    have habsolute : (directory.join path).isAbsolute = true := by
      rw [Path.isAbsolute_join hne hpath, h]
    obtain ⟨front, hjoin, hdirectory⟩ := Path.text_join hne hpath
    have hpieces : (directory.join path).pieces = Text.piecesAt '/' front ++ path.pieces := by
      rw [Path.pieces, hjoin, Text.piecesAt_append]
      rfl
    rw [ofPath_of_isAbsolute habsolute, hpieces, Path.piecesIn, if_neg (by simp [hpath]),
      List.foldl_append, List.foldl_append]
    -- A separator at the end of the directory leaves an empty piece.
    have hfront : directory.pieces.foldl stepPiece ⟨true, []⟩ =
        (Text.piecesAt '/' front).foldl stepPiece ⟨true, []⟩ := by
      unfold Path.pieces
      rcases hdirectory with hdirectory | hdirectory
      · rw [hdirectory]
      · rw [hdirectory, Text.piecesAt_append, List.foldl_append]
        rfl
    rw [hfront]

theorem not_mem_of_mem_piecesIn (h : piece ∈ directory.piecesIn path) : '/' ∉ piece := by
  unfold Path.piecesIn at h
  split at h
  · exact Text.not_mem_of_mem_piecesAt h
  · rcases List.mem_append.1 h with h | h <;> exact Text.not_mem_of_mem_piecesAt h

/-! ## Shortening does not change the location -/

theorem foldl_eq_of_shortens (h : Shortens pieces shorter) :
    pieces.foldl stepPiece ⟨true, []⟩ = shorter.foldl stepPiece ⟨true, []⟩ := by
  cases h with
  | empty front rest => simp
  | here front rest => simp
  | up front rest hempty hhere hup => simp [stepPiece_name hempty hhere hup]
  | atRoot => rfl

theorem foldl_eq_of_reflTransGen (h : Relation.ReflTransGen Shortens pieces normal) :
    pieces.foldl stepPiece ⟨true, []⟩ = normal.foldl stepPiece ⟨true, []⟩ := by
  induction h with
  | refl => rfl
  | tail _ hstep ih => rw [ih, foldl_eq_of_shortens hstep]

theorem subset_of_shortens (h : Shortens pieces shorter) : shorter ⊆ pieces := by
  intro piece hmem
  cases h <;> grind

theorem subset_of_reflTransGen (h : Relation.ReflTransGen Shortens pieces normal) :
    normal ⊆ pieces := by
  induction h with
  | refl => exact List.Subset.refl pieces
  | tail _ hstep ih => exact List.Subset.trans (subset_of_shortens hstep) ih

/-! ## The location is what is left -/

theorem Proper.stepPiece (h : location.Proper) (hpiece : '/' ∉ piece) :
    (location.stepPiece piece).Proper := by
  unfold Location.stepPiece
  cases hcomponent : componentOf false piece with
  | none => exact h
  | some component =>
    refine h.step fun name heq => ?_
    rw [heq] at hcomponent
    exact Path.isName_of_componentOf hpiece hcomponent

/-- The names so far and the next piece are shortened to the names behind the piece. -/
theorem reflTransGen_stepPiece (h : location.Proper) (piece : List Char)
    (rest : List (List Char)) :
    Relation.ReflTransGen Shortens (location.names.map String.toList ++ piece :: rest)
      ((location.stepPiece piece).names.map String.toList ++ rest) := by
  -- Each shape of the piece is one way of shortening, but a name is kept.
  by_cases hempty : piece = []
  · rw [hempty]
    exact .single (.empty _ rest)
  by_cases hhere : piece = ['.']
  · rw [hhere]
    exact .single (.here _ rest)
  by_cases hup : piece = ['.', '.']
  · rw [hup, stepPiece_up]
    obtain ⟨absolute, names⟩ := location
    rcases List.eq_nil_or_concat names with rfl | ⟨before, last, rfl⟩
    · exact .single (.atRoot rest)
    · have hlast : IsName last := h last (by simp)
      have hup := Shortens.up (before.map String.toList) rest hlast.toList_ne_nil
        (fun heq => hlast.notHere (String.toList_inj.1 heq))
        (fun heq => hlast.notUp (String.toList_inj.1 heq))
      simpa using Relation.ReflTransGen.single hup
  · rw [stepPiece_name hempty hhere hup]
    simpa using Relation.ReflTransGen.refl

/-- **Going through the pieces is shortening them.** -/
theorem reflTransGen_foldl (h : location.Proper) (hpieces : ∀ piece ∈ pieces, '/' ∉ piece) :
    Relation.ReflTransGen Shortens (location.names.map String.toList ++ pieces)
      ((pieces.foldl stepPiece location).names.map String.toList) := by
  induction pieces generalizing location with
  | nil =>
    rw [List.append_nil]
    exact .refl
  | cons piece pieces ih =>
    obtain ⟨hpiece, hpieces⟩ := List.forall_mem_cons.1 hpieces
    exact (reflTransGen_stepPiece h piece pieces).trans (ih (h.stepPiece hpiece) hpieces)

theorem proper_foldl (h : location.Proper) (hpieces : ∀ piece ∈ pieces, '/' ∉ piece) :
    (pieces.foldl stepPiece location).Proper := by
  induction pieces generalizing location with
  | nil => exact h
  | cons piece pieces ih =>
    obtain ⟨hpiece, hpieces⟩ := List.forall_mem_cons.1 hpieces
    exact ih (h.stepPiece hpiece) hpieces

/-- Names that stand for themselves cannot be shortened. -/
theorem not_shortens_names (hnames : ∀ name ∈ names, IsName name) :
    ¬ Shortens (names.map String.toList) shorter := by
  have hnot : ∀ piece, (componentOf false piece = none ∨ componentOf false piece = some .up) →
      piece ∉ names.map String.toList := by
    intro piece hpiece hmem
    obtain ⟨name, hname, rfl⟩ := List.mem_map.1 hmem
    rw [Path.componentOf_name (hnames name hname)] at hpiece
    rcases hpiece with hpiece | hpiece <;> cases hpiece
  intro h
  generalize hpieces : names.map String.toList = pieces at h hnot
  cases h with
  | empty => exact hnot [] (.inl rfl) (by simp)
  | here => exact hnot ['.'] (.inl rfl) (by simp)
  | up => exact hnot ['.', '.'] (.inr rfl) (by simp)
  | atRoot => exact hnot ['.', '.'] (.inr rfl) (by simp)

theorem proper_root : (⟨true, []⟩ : Location).Proper := List.forall_mem_nil _

/-- **A spelling has one normal form**, the names that its pieces lead to. -/
theorem normalForm_iff (hpieces : ∀ piece ∈ pieces, '/' ∉ piece) :
    NormalForm pieces normal ↔
      normal = (pieces.foldl stepPiece ⟨true, []⟩).names.map String.toList := by
  constructor
  · rintro ⟨hreached, hshortest⟩
    have hnormal : ∀ piece ∈ normal, '/' ∉ piece :=
      fun piece hpiece => hpieces piece (subset_of_reflTransGen hreached hpiece)
    rw [foldl_eq_of_reflTransGen hreached]
    -- From the normal form its own names are reached, and nothing else is.
    exact ((Relation.reflTransGen_iff_eq hshortest).1
      (reflTransGen_foldl proper_root hnormal)).symm
  · rintro rfl
    exact ⟨reflTransGen_foldl proper_root hpieces,
      fun _ => not_shortens_names (proper_foldl proper_root hpieces)⟩

/-! ## Paths relative to a directory -/

theorem absolute_ofPath_join (h : directory.isAbsolute = true) (path : Path) :
    (ofPath (directory.join path)).absolute = true := by
  rw [ofPath_join h, absolute_foldl_stepPiece]

/-- The names of a path behind a directory are the normal form of the two. -/
theorem normalForm_piecesIn_iff (h : directory.isAbsolute = true) :
    NormalForm (directory.piecesIn path) normal ↔
      normal = (ofPath (directory.join path)).names.map String.toList := by
  rw [ofPath_join h]
  exact normalForm_iff fun _ => not_mem_of_mem_piecesIn

/-- Two spellings with one normal form lead to one location. -/
theorem ofPath_join_congr (h : directory.isAbsolute = true)
    (hpath : NormalForm (directory.piecesIn path) normal)
    (hother : NormalForm (directory.piecesIn other) normal) :
    ofPath (directory.join other) = ofPath (directory.join path) := by
  have habsolute : (ofPath (directory.join other)).absolute =
      (ofPath (directory.join path)).absolute :=
    (absolute_ofPath_join h other).trans (absolute_ofPath_join h path).symm
  have hnames : (ofPath (directory.join other)).names = (ofPath (directory.join path)).names := by
    have htexts := ((normalForm_piecesIn_iff h).1 hother).symm.trans
      ((normalForm_piecesIn_iff h).1 hpath)
    exact List.map_injective_iff.2 (fun _ _ => String.toList_inj.1) htexts
  calc ofPath (directory.join other)
    _ = ⟨(ofPath (directory.join other)).absolute, (ofPath (directory.join other)).names⟩ := rfl
    _ = ⟨(ofPath (directory.join path)).absolute, (ofPath (directory.join path)).names⟩ := by
      rw [habsolute, hnames]
    _ = ofPath (directory.join path) := rfl

end Location

end StyleCheck
