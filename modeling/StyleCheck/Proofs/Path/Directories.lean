import StyleCheck.Path.Basic
import StyleCheck.Proofs.Text.Split

/-!
# The directories that contain a location

They are the directories that some further names lead from to the location (`mem_directories`),
and they are listed with the closest first, so their names become fewer (`pairwise_directories`)
and what is listed before a directory is closer to the location (`mem_below_iff`).
-/

namespace StyleCheck.Location

variable {location directory : Location} {names : List String}

/-- The directory has the location somewhere below it. -/
def Contains (directory location : Location) : Prop :=
  directory.absolute = location.absolute ∧
    ∃ names, names ≠ [] ∧ location.names = directory.names ++ names

theorem mem_above {names start : List String} :
    start ∈ above names ↔ ∃ rest, rest ≠ [] ∧ names = start ++ rest := by
  induction names generalizing start with
  | nil => simp [above]
  | cons name names ih =>
    simp only [above, List.mem_append, List.mem_map, List.mem_singleton]
    constructor
    · rintro (⟨start, hstart, rfl⟩ | rfl)
      · obtain ⟨rest, hne, rfl⟩ := ih.1 hstart
        exact ⟨rest, hne, rfl⟩
      · exact ⟨name :: names, by simp, rfl⟩
    · rintro ⟨rest, hne, heq⟩
      cases start with
      | nil => exact .inr rfl
      | cons first start =>
        obtain ⟨rfl, rfl⟩ := List.cons.inj heq
        exact .inl ⟨start, ih.2 ⟨rest, hne, rfl⟩, rfl⟩

theorem pairwise_above (names : List String) :
    (above names).Pairwise fun closer farther => farther.length < closer.length := by
  induction names with
  | nil => simp [above]
  | cons name names ih =>
    refine List.pairwise_append.2 ⟨?_, by simp, ?_⟩
    · exact List.pairwise_map.2 (ih.imp fun h => by simpa using h)
    · intro closer hcloser farther hfarther
      obtain ⟨start, -, rfl⟩ := List.mem_map.1 hcloser
      rw [List.mem_singleton.1 hfarther]
      simp

theorem mem_directories : directory ∈ location.directories ↔ directory.Contains location := by
  unfold directories
  rw [List.mem_map]
  constructor
  · rintro ⟨start, hstart, rfl⟩
    exact ⟨rfl, mem_above.1 hstart⟩
  · rintro ⟨habsolute, hnames⟩
    exact ⟨directory.names, mem_above.2 hnames, by rw [← habsolute]⟩

theorem pairwise_directories (location : Location) :
    location.directories.Pairwise fun closer farther =>
      farther.names.length < closer.names.length :=
  List.pairwise_map.2 (pairwise_above location.names)

theorem mem_below_iff {below farther : List Location} {closer : Location}
    (h : location.directories = below ++ directory :: farther) :
    closer ∈ below ↔ closer.Contains location ∧ directory.names.length < closer.names.length := by
  have hsorted := pairwise_directories location
  rw [h, List.pairwise_append, List.pairwise_cons] at hsorted
  obtain ⟨-, ⟨hfarther, -⟩, hbelow⟩ := hsorted
  rw [← mem_directories, h, List.mem_append, List.mem_cons]
  constructor
  · intro hmem
    exact ⟨.inl hmem, hbelow closer hmem directory List.mem_cons_self⟩
  · rintro ⟨hmem | rfl | hmem, hlt⟩
    · exact hmem
    · exact absurd hlt (Nat.lt_irrefl _)
    · exact absurd hlt (Nat.lt_asymm (hfarther closer hmem))

theorem namesFrom?_eq_some_iff :
    location.namesFrom? directory = some names ↔
      directory.absolute = location.absolute ∧ location.names = directory.names ++ names := by
  unfold namesFrom?
  by_cases h : directory.absolute = location.absolute
  · simp [h, Text.dropWord?_eq_some_iff]
  · simp [h]

end StyleCheck.Location
