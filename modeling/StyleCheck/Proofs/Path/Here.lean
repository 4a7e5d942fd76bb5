import StyleCheck.Path.Basic
import StyleCheck.Proofs.Text.Split
import Mathlib.Logic.Basic

/-!
# Paths that start with `.`

A `.` leaves a trace in the components of a path only where the path starts with it, so a path has
at most two spellings that differ in `.` components only, one with a `.` in front and one without
(`plain_eq_iff`).

Joining a relative path to a path that is not empty leaves its start as it is (`startsHere_join`).
-/

namespace StyleCheck.Path

variable {path other : Path}

/-- The components of the path other than `.`. -/
def plain (path : Path) : List Component := path.components.filter (· != .here)

/-- The path starts with `.`. -/
def StartsHere (path : Path) : Prop := path.components.head? = some .here

theorem componentOf_false_ne {piece : List Char} {component : Component}
    (h : componentOf false piece = some component) : component ≠ .root ∧ component ≠ .here := by
  unfold componentOf at h
  split at h
  · cases h
  split at h
  · cases h
  split at h <;> cases h <;> exact ⟨nofun, nofun⟩

theorem componentOf_true_eq_here_iff {piece : List Char} :
    componentOf true piece = some .here ↔ piece = ['.'] := by
  unfold componentOf
  by_cases hempty : piece = []
  · simp [hempty]
  · by_cases hhere : piece = ['.']
    · simp [hhere]
    · by_cases hup : piece = ['.', '.'] <;> simp [hempty, hhere, hup]

/-- Only the first component may be a root or a `.`. -/
theorem ne_of_mem_tail_components {component : Component} (h : component ∈ path.components.tail) :
    component ≠ .root ∧ component ≠ .here := by
  have general : ∀ (start : Option Component) (pieces : List (List Char)),
      component ∈ (start.toList ++ pieces.filterMap (componentOf false)).tail →
        component ≠ .root ∧ component ≠ .here := by
    intro start pieces hmem
    have hmem : component ∈ pieces.filterMap (componentOf false) := by
      cases start with
      | none => exact List.mem_of_mem_tail hmem
      | some start => exact hmem
    obtain ⟨piece, -, hpiece⟩ := List.mem_filterMap.1 hmem
    exact componentOf_false_ne hpiece
  unfold components at h
  split at h
  · cases h
  · exact general _ _ h

theorem filter_tail_components (path : Path) :
    path.components.tail.filter (· != .here) = path.components.tail :=
  List.filter_eq_self.2 fun _ hmem => bne_iff_ne.2 (ne_of_mem_tail_components hmem).2

theorem components_of_startsHere (h : path.StartsHere) :
    path.components = .here :: path.plain := by
  have htail := filter_tail_components path
  unfold StartsHere at h
  unfold plain
  cases hcomponents : path.components with
  | nil => simp [hcomponents] at h
  | cons first more =>
    rw [hcomponents] at h htail
    cases h
    simpa using htail.symm

theorem components_of_not_startsHere (h : ¬ path.StartsHere) :
    path.components = path.plain := by
  have htail := filter_tail_components path
  unfold StartsHere at h
  unfold plain
  cases hcomponents : path.components with
  | nil => rfl
  | cons first more =>
    rw [hcomponents] at h htail
    have hfirst : first ≠ .here := by simpa using h
    simpa [hfirst] using htail.symm

/-- A path without its `.` components has two spellings at most. -/
theorem plain_eq_iff : path.plain = other.plain ↔
    path.components = other.plain ∨ path.components = .here :: other.plain := by
  constructor
  · intro h
    by_cases hpath : path.StartsHere
    · exact .inr (h ▸ components_of_startsHere hpath)
    · exact .inl (h ▸ components_of_not_startsHere hpath)
  · have hplain : other.plain.filter (· != .here) = other.plain := by simp [plain]
    rintro (h | h) <;> rw [plain, h] <;> simp [hplain]

/-- The paths that differ from a path in `.` components only, counted by their spellings. -/
theorem countP_plain (paths : List Path) (path : Path) :
    paths.countP (·.plain = path.plain) =
      paths.countP (·.components = path.plain) +
        paths.countP (·.components = .here :: path.plain) := by
  induction paths with
  | nil => rfl
  | cons first paths ih =>
    have hne : path.plain ≠ .here :: path.plain := (List.cons_ne_self _ _).symm
    have hfirst : (if first.plain = path.plain then 1 else 0) =
        (if first.components = path.plain then 1 else 0) +
          if first.components = .here :: path.plain then 1 else 0 := by
      rw [if_congr plain_eq_iff rfl rfl]
      by_cases hwithout : first.components = path.plain
      · simp [hwithout, hne]
      · simp [hwithout]
    simp only [List.countP_cons, decide_eq_true_eq, ih, hfirst]
    omega

/-! ## Where a path starts, read off its text -/

/-- The characters before the first separator. -/
def firstPiece (path : Path) : List Char := path.text.toList.takeWhile (· != '/')

theorem head?_components_of_isAbsolute (h : path.isAbsolute = true) :
    path.components.head? = some .root := by
  unfold components
  split
  next hpieces =>
    rw [Text.piecesAt_eq_splitOn] at hpieces
    exact absurd hpieces (List.splitOn_ne_nil _ _)
  · simp [h]

theorem startsHere_iff : path.StartsHere ↔ path.firstPiece = ['.'] := by
  have hpieces : Text.piecesAt '/' path.text.toList ≠ [] := by
    rw [Text.piecesAt_eq_splitOn]
    exact List.splitOn_ne_nil _ _
  have hfirst : (Text.piecesAt '/' path.text.toList).head? = some path.firstPiece :=
    Text.head?_piecesAt '/' path.text.toList
  cases habsolute : path.isAbsolute with
  | true =>
    have hempty : path.firstPiece = [] := by
      obtain ⟨rest, hrest⟩ := List.head?_eq_some_iff.1 (beq_iff_eq.1 habsolute)
      simp [firstPiece, hrest]
    simp [StartsHere, head?_components_of_isAbsolute habsolute, hempty]
  | false =>
    obtain ⟨more, hmore⟩ := List.head?_eq_some_iff.1 hfirst
    -- Only the first piece may be a `.` component, so no later one makes the path start so.
    have hrest : (more.filterMap (componentOf false)).head? ≠ some .here := by
      intro hhead
      obtain ⟨piece, -, hpiece⟩ := List.mem_filterMap.1 (List.mem_of_head? hhead)
      exact (componentOf_false_ne hpiece).2 rfl
    unfold StartsHere components
    rw [hmore, ← componentOf_true_eq_here_iff]
    cases hstart : componentOf true path.firstPiece with
    | none => simpa [habsolute, hstart] using hrest
    | some component => simp [habsolute, hstart]

/-! ## Joining -/

theorem takeWhile_append_separator (text rest : List Char) :
    (text ++ '/' :: rest).takeWhile (· != '/') = text.takeWhile (· != '/') := by
  induction text with
  | nil => simp
  | cons c text ih => simp [List.takeWhile_cons, ih]

theorem text_join (hne : path.text ≠ "") (hrelative : other.isAbsolute = false) :
    ∃ front, (path.join other).text.toList = front ++ '/' :: other.text.toList ∧
      (path.text.toList = front ∨ path.text.toList = front ++ ['/']) := by
  unfold join
  rw [hrelative, if_neg Bool.false_ne_true]
  split
  next hlast =>
    exact absurd (String.toList_eq_nil_iff.1 (List.getLast?_eq_none_iff.1 hlast)) hne
  next hlast =>
    obtain ⟨front, hfront⟩ := List.getLast?_eq_some_iff.1 hlast
    exact ⟨front, by simp [hfront], .inr hfront⟩
  · exact ⟨path.text.toList, by simp, .inl rfl⟩

theorem isAbsolute_join (hne : path.text ≠ "") (hrelative : other.isAbsolute = false) :
    (path.join other).isAbsolute = path.isAbsolute := by
  obtain ⟨front, hjoin, hpath⟩ := text_join hne hrelative
  have hhead : (front ++ '/' :: other.text.toList).head? = path.text.toList.head? := by
    rcases hpath with hpath | hpath
    · have hfront : front ≠ [] := by rwa [← hpath, ne_eq, String.toList_eq_nil_iff]
      rw [hpath, List.head?_append, List.head?_eq_some_head hfront, Option.some_or]
    · rw [hpath, List.head?_append, List.head?_append, List.head?_cons, List.head?_cons]
  rw [isAbsolute, isAbsolute, hjoin, hhead]

theorem startsHere_join (hne : path.text ≠ "") (hrelative : other.isAbsolute = false) :
    (path.join other).StartsHere ↔ path.StartsHere := by
  obtain ⟨front, hjoin, hpath⟩ := text_join hne hrelative
  rw [startsHere_iff, startsHere_iff, firstPiece, firstPiece, hjoin, takeWhile_append_separator]
  rcases hpath with hpath | hpath <;> rw [hpath]
  rw [takeWhile_append_separator]

end StyleCheck.Path
