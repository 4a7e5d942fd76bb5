import StyleCheck.EditorConfig.Resolver
import StyleCheck.Proofs.Path.NormalForm

/-!
# Settings of a path, whatever its spelling

A path can be spelled in many ways, relative to the current directory or from the root, with `.` and
`..` and with more separators than it needs. The settings of the file should be the same.

**Theorem (`exists_isLocatedAt`).** They depend on the normal form of the spelling only. It leads
from the root to the file, has neither `.` nor `..`, and is left as it is if it is resolved again.
It goes on from every directory in which settings are looked for, with a path that is not empty. So
the sections of every settings file are held against a path relative to its directory.
-/

namespace StyleCheck.EditorConfig

open StyleCheck.Path (NormalForm)

variable {fs : FileSystem} {current path other : Path} {location directory : Location}

/-- The location stands for the path, as it is spelled, and for no more than its normal form. -/
structure IsLocatedAt (fs : FileSystem) (current path : Path) (location : Location) : Prop where
  locate_eq : Resolver.locate fs path = .ok location
  /-- The names of the location are the one normal form of the spelling. -/
  normalForm_iff : ∀ normal, NormalForm (current.piecesIn path) normal ↔
    normal = location.names.map String.toList
  /-- The path of the location starts at the root and has neither `.` nor `..`. -/
  components_path : location.path.components = .root :: location.names.map .name
  /-- Each of its names stands behind one separator. -/
  text_path : location.path.text = "/" ++ "/".intercalate location.names
  /-- Resolved again it stays as it is, whatever the current directory is. -/
  locate_path : ∀ files : FileSystem, Resolver.locate files location.path = .ok location
  /-- Other spellings with this normal form get the same settings, with the same memory. -/
  congr : ∀ other normal, NormalForm (current.piecesIn path) normal →
    NormalForm (current.piecesIn other) normal → ∀ resolver,
      Resolver.properties fs other resolver = Resolver.properties fs path resolver ∧
      Resolver.settings fs other resolver = Resolver.settings fs path resolver
  /-- Joined to any directory above, the rest of the path gives the path. -/
  join_relativePath : ∀ directory ∈ location.directories, ∃ names,
    location.namesFrom? directory = some names ∧ names ≠ [] ∧ Location.relativePath names ≠ [] ∧
      directory.path.join ⟨String.ofList (Location.relativePath names)⟩ = location.path

theorem locate_eq_ofPath_join (hcurrent : fs.currentDirectory = .ok current) (path : Path) :
    Resolver.locate fs path = .ok (.ofPath (current.join path)) := by
  unfold Resolver.locate
  split
  next habsolute =>
    rw [Path.join, if_pos habsolute]
  · rw [hcurrent]

theorem properties_congr (h : Resolver.locate fs other = Resolver.locate fs path)
    (resolver : Resolver) :
    Resolver.properties fs other resolver = Resolver.properties fs path resolver ∧
      Resolver.settings fs other resolver = Resolver.settings fs path resolver := by
  have hproperties :
      Resolver.properties fs other resolver = Resolver.properties fs path resolver := by
    unfold Resolver.properties
    rw [h]
  refine ⟨hproperties, ?_⟩
  unfold Resolver.settings
  rw [hproperties]

theorem relativePath_ne_nil {names : List String} (hnames : ∀ name ∈ names, Path.IsName name)
    (hne : names ≠ []) : Location.relativePath names ≠ [] := by
  obtain ⟨name, others, rfl⟩ := List.exists_cons_of_ne_nil hne
  have hname := (hnames name List.mem_cons_self).toList_ne_nil
  rw [Location.relativePath_eq, ← String.append_empty (s := name),
    String.intercalate_cons_append, String.toList_append]
  exact List.append_ne_nil_of_left_ne_nil hname _

/-- From a directory above, the rest of the names leads to the location. -/
theorem exists_join_relativePath (hproper : location.Proper)
    (h : directory ∈ location.directories) :
    ∃ names, location.namesFrom? directory = some names ∧ names ≠ [] ∧
      Location.relativePath names ≠ [] ∧
      directory.path.join ⟨String.ofList (Location.relativePath names)⟩ = location.path := by
  have hdirectory : directory.Proper := hproper.of_contains (Location.mem_directories.1 h)
  obtain ⟨habsolute, names, hne, heq⟩ := Location.mem_directories.1 h
  have hnames : ∀ name ∈ names, Path.IsName name :=
    fun name hmem => hproper name (heq ▸ List.mem_append_right _ hmem)
  refine ⟨names, Location.namesFrom?_eq_some_iff.2 ⟨habsolute, heq⟩, hne,
    relativePath_ne_nil hnames hne, ?_⟩
  have htext := Location.text_join_names hdirectory hnames hne
  rw [← heq, habsolute, ← Location.text_path] at htext
  rw [Location.relativePath_eq, String.ofList_toList]
  exact congrArg Path.mk htext

/-- **Settings depend only on the normal form of a path**, which goes on from every directory in
which they are looked for. -/
theorem exists_isLocatedAt (fs : FileSystem) (current : Path)
    (hcurrent : fs.currentDirectory = .ok current) (habsolute : current.isAbsolute = true)
    (path : Path) : ∃ location, IsLocatedAt fs current path location := by
  have hlocate := locate_eq_ofPath_join hcurrent
  have hproper := Location.proper_ofPath (current.join path)
  have htext := Location.text_path (Location.ofPath (current.join path))
  rw [Location.absolute_ofPath_join habsolute] at htext
  exact ⟨Location.ofPath (current.join path), {
    locate_eq := hlocate path
    normalForm_iff := fun normal => Location.normalForm_piecesIn_iff habsolute
    components_path := Path.components_of_text hproper htext
    text_path := htext
    locate_path := by
      intro files
      have hpath : (Location.ofPath (current.join path)).path.isAbsolute = true := by
        simp [Path.isAbsolute, htext, Path.rootText]
      rw [Resolver.locate, if_pos hpath, Location.ofPath_path hproper]
    congr := by
      intro other normal hpath hother
      apply properties_congr
      rw [hlocate, hlocate, Location.ofPath_join_congr habsolute hpath hother]
    join_relativePath := fun directory => exists_join_relativePath hproper }⟩

/-- A settings file with an anchored section. -/
def anchoredFiles : FileSystem where
  readText _ := .ok "[lib/*.c]\nindent_size=2"
  isFile path := path.text == "/src/.editorconfig"
  currentDirectory := .ok ⟨"/src"⟩
  configDirectory := none

/-- The section applies to the file however it is spelled. -/
theorem exists_isLocatedAt_anchoredFiles :
    let path : Path := ⟨"lib/a.c"⟩
    let other : Path := ⟨"/../src/./x/..//lib/a.c/"⟩
    anchoredFiles.currentDirectory = .ok ⟨"/src"⟩ ∧ Path.isAbsolute ⟨"/src"⟩ = true ∧
      (Resolver.properties anchoredFiles path {}).1 = .ok [("indent_size", "2")] ∧
      NormalForm (Path.piecesIn ⟨"/src"⟩ other) ["src".toList, "lib".toList, "a.c".toList] ∧
      Resolver.properties anchoredFiles other {} = Resolver.properties anchoredFiles path {} := by
  intro path other
  have hcurrent : anchoredFiles.currentDirectory = .ok ⟨"/src"⟩ := rfl
  have habsolute : Path.isAbsolute ⟨"/src"⟩ = true := by decide
  obtain ⟨location, h⟩ := exists_isLocatedAt anchoredFiles ⟨"/src"⟩ hcurrent habsolute path
  obtain ⟨location', h'⟩ := exists_isLocatedAt anchoredFiles ⟨"/src"⟩ hcurrent habsolute other
  have hlocate : Resolver.locate anchoredFiles path = .ok ⟨true, ["src", "lib", "a.c"]⟩ := by
    decide +kernel
  have hlocate' : Resolver.locate anchoredFiles other = .ok ⟨true, ["src", "lib", "a.c"]⟩ := by
    decide +kernel
  cases h.locate_eq.symm.trans hlocate
  cases h'.locate_eq.symm.trans hlocate'
  have hnormal := (h.normalForm_iff _).2 rfl
  have hnormal' := (h'.normalForm_iff _).2 rfl
  exact ⟨hcurrent, habsolute, by decide +kernel, hnormal',
    (h.congr other _ hnormal hnormal' {}).1⟩

end StyleCheck.EditorConfig
