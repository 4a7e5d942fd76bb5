import StyleCheck.Proofs.Path.Directories
import Mathlib.Data.List.Basic

/-!
# Spelling a location and reading it back

The path of a location is its names between separators, and the location of that path is the
location again (`ofPath_path`), as long as every name stands for itself: it is not empty, neither
`.` nor `..`, and holds no separator. The names of every location that was read from a path are
such names (`proper_ofPath`).

Joining such names to the path of a location leads on from there (`text_join_names`), and joining a
single one leads one name further (`ofPath_join_name`).
-/

namespace StyleCheck

namespace Path

/-- A name that stands for itself between separators. -/
structure IsName (name : String) : Prop where
  notEmpty : name ≠ ""
  notHere : name ≠ "."
  notUp : name ≠ ".."
  noSeparator : '/' ∉ name.toList

variable {name : String} {names : List String} {path : Path}

theorem IsName.toList_ne_nil (h : IsName name) : name.toList ≠ [] := by
  rw [ne_eq, String.toList_eq_nil_iff]
  exact h.notEmpty

theorem componentOf_name (h : IsName name) (first : Bool) :
    componentOf first name.toList = some (.name name) := by
  have hhere : name.toList ≠ ['.'] := fun heq =>
    h.notHere (String.toList_inj.1 heq)
  have hup : name.toList ≠ ['.', '.'] := fun heq =>
    h.notUp (String.toList_inj.1 heq)
  rw [componentOf, if_neg h.toList_ne_nil, if_neg hhere, if_neg hup, String.ofList_toList]

theorem isName_of_componentOf {first : Bool} {piece : List Char} (hpiece : '/' ∉ piece)
    (h : componentOf first piece = some (.name name)) : IsName name := by
  unfold componentOf at h
  split at h
  · cases h
  split at h
  · split at h <;> cases h
  split at h
  · cases h
  next hempty hhere hup =>
    cases h
    exact ⟨fun heq => hempty (String.ofList_inj.1 heq), fun heq => hhere (String.ofList_inj.1 heq),
      fun heq => hup (String.ofList_inj.1 heq), by rwa [String.toList_ofList]⟩

/-- The separator as it starts an absolute path. -/
def rootText (absolute : Bool) : String := if absolute then "/" else ""

theorem piecesAt_names (hnames : ∀ name ∈ names, IsName name) (hne : names ≠ []) :
    Text.piecesAt '/' ("/".intercalate names).toList = names.map String.toList := by
  rw [Text.piecesAt_eq_splitOn, String.toList_intercalate]
  refine List.splitOn_intercalate '/' ?_ (by simpa using hne)
  intro piece hpiece
  obtain ⟨name, hname, rfl⟩ := List.mem_map.1 hpiece
  exact (hnames name hname).noSeparator

theorem filterMap_names (hnames : ∀ name ∈ names, IsName name) :
    (names.map String.toList).filterMap (componentOf false) = names.map .name := by
  rw [List.filterMap_map, ← List.filterMap_eq_map]
  exact List.filterMap_congr fun name hname => componentOf_name (hnames name hname) false

theorem isAbsolute_of_name (hname : IsName name) (rest : String) :
    isAbsolute ⟨name ++ rest⟩ = false := by
  have hsep := hname.noSeparator
  cases hchars : name.toList with
  | nil => exact absurd hchars hname.toList_ne_nil
  | cons c cs =>
    have hc : c ≠ '/' := fun heq => hsep (by simp [hchars, heq])
    simp [isAbsolute, hchars, hc]

/-- The components of a path that is spelled by names that stand for themselves. -/
theorem components_of_text {absolute : Bool} (hnames : ∀ name ∈ names, IsName name)
    (htext : path.text = rootText absolute ++ "/".intercalate names) :
    path.components = (if absolute then [.root] else []) ++ names.map .name := by
  obtain ⟨text⟩ := path
  subst htext
  unfold components
  cases absolute with
  | true =>
    have hpieces : Text.piecesAt '/' (rootText true ++ "/".intercalate names).toList =
        [] :: Text.piecesAt '/' ("/".intercalate names).toList := by
      simp [rootText, Text.piecesAt]
    rw [hpieces]
    have habsolute : isAbsolute ⟨rootText true ++ "/".intercalate names⟩ = true := by
      simp [isAbsolute, rootText]
    simp only [habsolute, if_true]
    cases names with
    | nil => rfl
    | cons name names =>
      rw [piecesAt_names hnames (by simp), filterMap_names hnames]
      rfl
  | false =>
    have hroot : rootText false ++ "/".intercalate names = "/".intercalate names := by
      simp [rootText]
    rw [hroot]
    cases names with
    | nil => rfl
    | cons name names =>
      have hname := hnames name List.mem_cons_self
      have hrest : ∀ n ∈ names, IsName n := fun n hn => hnames n (List.mem_cons_of_mem _ hn)
      have habsolute : isAbsolute ⟨"/".intercalate (name :: names)⟩ = false := by
        rw [← String.append_empty (s := name), String.intercalate_cons_append]
        exact isAbsolute_of_name hname _
      rw [piecesAt_names hnames (by simp)]
      simp only [habsolute, List.map_cons, filterMap_names hrest, componentOf_name hname]
      rfl

end Path

namespace Location

open StyleCheck.Path (IsName rootText)

variable {location directory : Location} {names : List String} {path : Path}

/-- Every name of the location stands for itself. -/
def Proper (location : Location) : Prop := ∀ name ∈ location.names, IsName name

/-! ## Paths lead to proper locations -/

theorem isName_of_mem_components {name : String} (h : .name name ∈ path.components) :
    IsName name := by
  unfold Path.components at h
  cases hpieces : Text.piecesAt '/' path.text.toList with
  | nil => simp [hpieces] at h
  | cons first more =>
    have hsep : ∀ piece ∈ first :: more, '/' ∉ piece := fun piece hpiece =>
      Text.not_mem_of_mem_piecesAt (hpieces ▸ hpiece)
    simp only [hpieces, List.mem_append, Option.mem_toList, List.mem_filterMap] at h
    rcases h with h | ⟨piece, hpiece, h⟩
    · split at h
      · cases h
      · exact Path.isName_of_componentOf (hsep first List.mem_cons_self) h
    · exact Path.isName_of_componentOf (hsep piece (List.mem_cons_of_mem _ hpiece)) h

theorem Proper.step {component : Path.Component} (h : location.Proper)
    (hname : ∀ name, component = .name name → IsName name) : (location.step component).Proper := by
  cases component with
  | root => exact fun name hmem => absurd hmem List.not_mem_nil
  | here => exact h
  | up => exact fun name hmem => h name (List.dropLast_subset _ hmem)
  | name name =>
    intro other hmem
    rcases List.mem_append.1 hmem with hmem | hmem
    · exact h other hmem
    · rw [List.mem_singleton.1 hmem]
      exact hname name rfl

theorem proper_ofPath (path : Path) : (ofPath path).Proper := by
  have general : ∀ components : List Path.Component,
      (∀ name, .name name ∈ components → IsName name) →
      ∀ start : Location, start.Proper → (components.foldl Location.step start).Proper := by
    intro components
    induction components with
    | nil => exact fun _ start hstart => hstart
    | cons component components ih =>
      intro hnames start hstart
      refine ih (fun name hmem => hnames name (List.mem_cons_of_mem _ hmem)) _ ?_
      exact hstart.step fun name heq => hnames name (heq ▸ List.mem_cons_self)
  exact general path.components (fun _ => isName_of_mem_components) _
    fun name hmem => absurd hmem List.not_mem_nil

theorem Proper.of_contains (h : location.Proper) (hcontains : directory.Contains location) :
    directory.Proper := by
  obtain ⟨-, rest, -, heq⟩ := hcontains
  intro name hmem
  exact h name (heq ▸ List.mem_append_left _ hmem)

/-! ## Spelling and reading back -/

theorem ofPath_of_text {absolute : Bool} (hnames : ∀ name ∈ names, IsName name)
    (htext : path.text = rootText absolute ++ "/".intercalate names) :
    ofPath path = ⟨absolute, names⟩ := by
  have general : ∀ (names : List String) (start : Location),
      (names.map Path.Component.name).foldl step start =
        ⟨start.absolute, start.names ++ names⟩ := by
    intro names
    induction names with
    | nil => intro start; simp
    | cons name names ih =>
      intro start
      rw [List.map_cons, List.foldl_cons, ih]
      simp [step]
  rw [ofPath, Path.components_of_text hnames htext, List.foldl_append, general]
  cases absolute <;> simp [step]

theorem text_path (location : Location) :
    location.path.text = rootText location.absolute ++ "/".intercalate location.names := by
  obtain ⟨absolute, names⟩ := location
  have htexts : (names.map Path.Component.name).map Path.Component.text = names := by
    rw [List.map_map]
    exact List.map_id names
  cases absolute with
  | true =>
    show "/" ++ "/".intercalate ((names.map Path.Component.name).map Path.Component.text) = _
    rw [htexts]
    rfl
  | false =>
    unfold path Path.ofComponents
    cases names with
    | nil => rfl
    | cons name names => simp_all [rootText]

theorem ofPath_path (h : location.Proper) : ofPath location.path = location :=
  ofPath_of_text h (text_path location)

theorem getLast?_text {absolute : Bool} {name : String} (names : List String)
    (hname : IsName name) :
    (rootText absolute ++ "/".intercalate (names ++ [name])).toList.getLast? =
      name.toList.getLast? := by
  cases names with
  | nil =>
    rw [List.nil_append, String.intercalate_singleton, String.toList_append,
      List.getLast?_append_of_ne_nil _ hname.toList_ne_nil]
  | cons first names =>
    rw [String.intercalate_append_of_ne_nil (by simp) (by simp), String.intercalate_singleton,
      ← String.append_assoc, String.toList_append,
      List.getLast?_append_of_ne_nil _ hname.toList_ne_nil]

/-- Names joined to the path of a location lead on from there, behind a single separator. -/
theorem text_join_names (h : location.Proper) (hnames : ∀ name ∈ names, IsName name)
    (hne : names ≠ []) :
    (location.path.join ⟨"/".intercalate names⟩).text =
      rootText location.absolute ++ "/".intercalate (location.names ++ names) := by
  obtain ⟨absolute, before⟩ := location
  have hrelative : Path.isAbsolute ⟨"/".intercalate names⟩ = false := by
    obtain ⟨name, others, rfl⟩ := List.exists_cons_of_ne_nil hne
    rw [← String.append_empty (s := name), String.intercalate_cons_append]
    exact Path.isAbsolute_of_name (hnames name List.mem_cons_self) _
  unfold Path.join
  rw [hrelative, if_neg Bool.false_ne_true, text_path]
  rcases List.eq_nil_or_concat before with rfl | ⟨before, last, rfl⟩
  · cases absolute <;> simp [rootText]
  · -- The last name ends in a character other than the separator, so one is put between.
    have hlast : IsName last := h last (by simp)
    simp only [List.concat_eq_append, getLast?_text before hlast]
    split
    next hnone => exact absurd (List.getLast?_eq_none_iff.1 hnone) hlast.toList_ne_nil
    next hslash => exact absurd (List.mem_of_getLast? hslash) hlast.noSeparator
    · rw [String.intercalate_append_of_ne_nil (l := before ++ [last]) (by simp) hne,
        String.append_assoc, String.append_assoc, String.append_assoc]

theorem text_join_name {name : String} (h : location.Proper) (hname : IsName name) :
    (location.path.join ⟨name⟩).text =
      rootText location.absolute ++ "/".intercalate (location.names ++ [name]) := by
  have hjoin := text_join_names h (List.forall_mem_singleton.2 hname) (List.cons_ne_nil name [])
  rwa [String.intercalate_singleton] at hjoin

theorem relativePath_eq (names : List String) :
    relativePath names = ("/".intercalate names).toList := by
  rw [relativePath, Text.join_eq_intercalate, String.toList_intercalate]
  rfl

theorem ofPath_join_name {name : String} (h : location.Proper) (hname : IsName name) :
    ofPath (location.path.join ⟨name⟩) = ⟨location.absolute, location.names ++ [name]⟩ := by
  refine ofPath_of_text ?_ (text_join_name h hname)
  intro other hother
  rcases List.mem_append.1 hother with hother | hother
  · exact h other hother
  · rw [List.mem_singleton.1 hother]
    exact hname

end Location

end StyleCheck
