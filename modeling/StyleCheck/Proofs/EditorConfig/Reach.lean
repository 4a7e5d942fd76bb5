import StyleCheck.Proofs.EditorConfig.Contents
import StyleCheck.Proofs.Path.Directories

/-!
# How far a lookup sees

A lookup *reaches* the directories that contain the file, from the closest one on, up to and with
the nearest root.

**Theorem (`depends_on_reached`).** A lookup with nothing remembered fails if and only if the
settings file of a directory that it reaches is broken, and its failure is about the closest such
file. Two file systems with the same settings files in the directories reached give the same
answer and the same readings, whatever they hold above the root and elsewhere.

Both halves are inductions on the directories from the closest one on. A failure comes from the
first broken file, before which there is no root (`chain_eq_error_iff`). For the second half every
load of the search is the same in both file systems (`load_congr`), and the search goes on only
from a directory that is no root, so it never loads a directory that it does not reach
(`search_congr`).
-/

namespace StyleCheck.EditorConfig

variable {fs other : FileSystem} {location directory : Location} {failure : Failure}

/-! ## Broken files and roots -/

/-- The settings file of the directory is there, but it cannot be read or has a malformed line.
The failure names the file. -/
inductive Broken (fs : FileSystem) (directory : Location) : Failure → Prop
  | unreadable (cause : IoError) (isFile : fs.isFile (fileIn directory) = true)
      (fails : fs.readText (fileIn directory) = .error cause) :
      Broken fs directory (.fileRead (fileIn directory) cause)
  | malformed (text : String) (error : Contents.LineError)
      (isFile : fs.isFile (fileIn directory) = true)
      (holds : fs.readText (fileIn directory) = .ok text)
      (fails : Contents.parse text.toList = .error error) :
      Broken fs directory (.editorConfig (fileIn directory) error.line error.fault.message)

theorem consult_eq_error_iff :
    consult fs directory = .error failure ↔ Broken fs directory failure := by
  constructor
  · intro h
    unfold consult Reading.of? Reading.contents at h
    by_cases hfile : fs.isFile (fileIn directory) = true
    · cases htext : fs.readText (fileIn directory) with
      | error cause =>
        simp only [hfile, htext, Except.map, if_true, Except.error.injEq] at h
        exact h ▸ .unreadable cause hfile htext
      | ok text =>
        cases hparse : Contents.parse text.toList with
        | error error =>
          simp only [hfile, htext, hparse, Except.map, if_true, Except.error.injEq] at h
          exact h ▸ .malformed text error hfile htext hparse
        | ok contents => simp [hfile, htext, hparse, Except.map] at h
    · simp [hfile] at h
  · rintro (⟨cause, hfile, htext⟩ | ⟨text, error, hfile, htext, hparse⟩)
    · simp [consult, Reading.of?, Reading.contents, hfile, htext, Except.map]
    · simp [consult, Reading.of?, Reading.contents, hfile, htext, hparse, Except.map]

/-- The directory has a settings file that declares it the root. -/
def IsRoot (fs : FileSystem) (directory : Location) : Prop :=
  ∃ contents, Holds fs directory contents ∧ contents.root = true

/-- The directory contains the location, and no directory closer to the location is a root. -/
def Reached (fs : FileSystem) (location directory : Location) : Prop :=
  directory.Contains location ∧ ∀ closer : Location, closer.Contains location →
    directory.names.length < closer.names.length → ¬ IsRoot fs closer

/-! ## The first broken file -/

/-- A search fails at its first directory, or goes on behind it and fails there. -/
theorem chain_cons_eq_error_iff {first : Location} {directories : List Location} :
    chain fs (first :: directories) = .error failure ↔
      Broken fs first failure ∨ ¬ IsRoot fs first ∧ (∀ cause, ¬ Broken fs first cause) ∧
        chain fs directories = .error failure := by
  simp only [IsRoot, ← consult_eq_some_iff, ← consult_eq_error_iff, chain]
  cases consult fs first with
  | error cause => simp
  | ok found =>
    cases found with
    | none => simp
    | some contents =>
      cases hroot : contents.root with
      | true => simp [hroot]
      | false => cases chain fs directories <;> simp [hroot, Except.map]

/-- A search fails at the first broken file if no root comes before it. -/
theorem chain_eq_error_iff {directories : List Location} :
    chain fs directories = .error failure ↔
      ∃ below directory above, directories = below ++ directory :: above ∧
        Broken fs directory failure ∧
        ∀ closer ∈ below, ¬ IsRoot fs closer ∧ ∀ cause, ¬ Broken fs closer cause := by
  induction directories with
  | nil => simp [chain]
  | cons first directories ih =>
    rw [chain_cons_eq_error_iff, ih]
    constructor
    · rintro (hbroken | ⟨hroot, hwhole, below, directory, above, rfl, hbroken, hbelow⟩)
      · exact ⟨[], first, directories, rfl, hbroken, by simp⟩
      · exact ⟨first :: below, directory, above, rfl, hbroken,
          List.forall_mem_cons.2 ⟨⟨hroot, hwhole⟩, hbelow⟩⟩
    · rintro ⟨below, directory, above, hsplit, hbroken, hbelow⟩
      rcases List.cons_eq_append_iff.1 hsplit with ⟨rfl, heq⟩ | ⟨lower, rfl, rfl⟩
      · cases heq
        exact .inl hbroken
      · obtain ⟨⟨hroot, hwhole⟩, hlower⟩ := List.forall_mem_cons.1 hbelow
        exact .inr ⟨hroot, hwhole, lower, directory, above, rfl, hbroken, hlower⟩

/-- With a broken file and no root before it a search fails, if not there then earlier. -/
theorem exists_chain_eq_error {below above : List Location} (hbroken : Broken fs directory failure)
    (hroots : ∀ closer ∈ below, ¬ IsRoot fs closer) :
    ∃ cause, chain fs (below ++ directory :: above) = .error cause := by
  induction below with
  | nil => exact ⟨failure, chain_cons_eq_error_iff.2 (.inl hbroken)⟩
  | cons first below ih =>
    obtain ⟨hroot, hroots⟩ := List.forall_mem_cons.1 hroots
    by_cases hfirst : ∃ cause, Broken fs first cause
    · obtain ⟨cause, hfirst⟩ := hfirst
      exact ⟨cause, chain_cons_eq_error_iff.2 (.inl hfirst)⟩
    · obtain ⟨cause, hrest⟩ := ih hroots
      exact ⟨cause, chain_cons_eq_error_iff.2 (.inr ⟨hroot, not_exists.1 hfirst, hrest⟩)⟩

/-! ## What two file systems share -/

/-- The settings file of the directory is the same in both file systems. -/
def SameFile (fs other : FileSystem) (directory : Location) : Prop :=
  other.isFile (fileIn directory) = fs.isFile (fileIn directory) ∧
    other.readText (fileIn directory) = fs.readText (fileIn directory)

theorem SameFile.of? (h : SameFile fs other directory) :
    Reading.of? other directory = Reading.of? fs directory := by
  unfold Reading.of?
  rw [h.1, h.2]

namespace Resolver

variable {resolver : Resolver} {directories : List Location}

theorem load_congr (h : SameFile fs other directory) :
    load other resolver directory = load fs resolver directory := by
  unfold load note consult
  rw [h.of?]

/-- A search loads only directories before which there is no root. -/
theorem search_congr (hreflects : resolver.Reflects fs)
    (h : ∀ below directory above, directories = below ++ directory :: above →
      (∀ closer ∈ below, ¬ IsRoot fs closer) → SameFile fs other directory) :
    search other directories resolver = search fs directories resolver := by
  induction directories generalizing resolver with
  | nil => rfl
  | cons first directories ih =>
    have hsame : resolver.memory first = none → consult fs first = consult fs first := fun _ => rfl
    obtain ⟨hanswer, hafter⟩ := load_of_reflects hreflects hsame
    -- Behind a directory that is no root the search goes on, in both file systems alike.
    have hon : ¬ IsRoot fs first → search other directories (load fs resolver first).2 =
        search fs directories (load fs resolver first).2 := by
      intro hroot
      refine ih hafter fun below directory above hsplit hbelow => ?_
      exact h (first :: below) directory above (by rw [hsplit]; rfl)
        (List.forall_mem_cons.2 ⟨hroot, hbelow⟩)
    have hfirst := h [] first directories rfl (by simp)
    simp only [search, load_congr hfirst]
    rcases hl : load fs resolver first with ⟨answer, after⟩
    rw [hl] at hanswer hon
    dsimp only at hanswer hon ⊢
    cases answer with
    | error failure => rfl
    | ok found =>
      cases found with
      | none =>
        refine hon ?_
        rintro ⟨contents, hholds, -⟩
        rw [consult_eq_some_iff.2 hholds] at hanswer
        cases hanswer
      | some contents =>
        dsimp only
        split
        · rfl
        next hroot =>
          rw [hon ?_]
          rintro ⟨said, hholds, hsaid⟩
          rw [consult_eq_some_iff.2 hholds] at hanswer
          cases hanswer
          exact hroot hsaid

end Resolver

/-! ## Lookups -/

theorem reached_iff {below above : List Location}
    (h : location.directories = below ++ directory :: above) :
    Reached fs location directory ↔ ∀ closer ∈ below, ¬ IsRoot fs closer := by
  have hcontains : directory.Contains location := Location.mem_directories.1 (by simp [h])
  simp only [Reached, Location.mem_below_iff h, hcontains, true_and, and_imp]

theorem Reached.exists_split (h : Reached fs location directory) :
    ∃ below above, location.directories = below ++ directory :: above :=
  List.append_of_mem (Location.mem_directories.2 h.1)

/-- What the lookup of a path depends on, if the path leads to the location. -/
structure DependsOnReached (fs : FileSystem) (path : Path) (location : Location) : Prop where
  /-- A lookup fails if and only if it reaches a broken file. -/
  fails_iff : (∃ failure, (Resolver.properties fs path {}).1 = .error failure) ↔
    ∃ directory failure, Reached fs location directory ∧ Broken fs directory failure
  /-- The failure is about the closest broken file. -/
  failure_iff : ∀ failure, (Resolver.properties fs path {}).1 = .error failure ↔
    ∃ directory, Reached fs location directory ∧ Broken fs directory failure ∧
      ∀ closer cause, closer.Contains location →
        directory.names.length < closer.names.length → ¬ Broken fs closer cause
  /-- The answer, and the files read for it, depend on the settings files reached alone. -/
  blind : ∀ other, Resolver.locate other path = .ok location →
    (∀ directory, Reached fs location directory → SameFile fs other directory) →
      Resolver.properties other path {} = Resolver.properties fs path {}

theorem properties_eq_error_iff {path : Path} (hlocate : Resolver.locate fs path = .ok location) :
    (Resolver.properties fs path {}).1 = .error failure ↔
      chain fs location.directories = .error failure := by
  rw [Resolver.properties_empty, Resolver.freshProperties, hlocate]
  dsimp only
  cases chain fs location.directories <;> simp [Except.map]

theorem dependsOnReached_of_locate {path : Path}
    (hlocate : Resolver.locate fs path = .ok location) : DependsOnReached fs path location where
  fails_iff := by
    simp only [properties_eq_error_iff hlocate]
    constructor
    · rintro ⟨failure, h⟩
      obtain ⟨below, directory, above, hsplit, hbroken, hbelow⟩ := chain_eq_error_iff.1 h
      exact ⟨directory, failure, (reached_iff hsplit).2 fun closer hmem => (hbelow closer hmem).1,
        hbroken⟩
    · rintro ⟨directory, failure, hreached, hbroken⟩
      obtain ⟨below, above, hsplit⟩ := hreached.exists_split
      -- A file that is broken and reached makes the search fail, if not there then before.
      rw [hsplit]
      exact exists_chain_eq_error hbroken ((reached_iff hsplit).1 hreached)
  failure_iff failure := by
    rw [properties_eq_error_iff hlocate, chain_eq_error_iff]
    constructor
    · rintro ⟨below, directory, above, hsplit, hbroken, hbelow⟩
      refine ⟨directory, (reached_iff hsplit).2 fun closer hmem => (hbelow closer hmem).1, hbroken,
        fun closer cause hcontains hlt => ?_⟩
      exact (hbelow closer ((Location.mem_below_iff hsplit).2 ⟨hcontains, hlt⟩)).2 cause
    · rintro ⟨directory, hreached, hbroken, hclosest⟩
      obtain ⟨below, above, hsplit⟩ := hreached.exists_split
      refine ⟨below, directory, above, hsplit, hbroken, fun closer hmem => ?_⟩
      obtain ⟨hcontains, hlt⟩ := (Location.mem_below_iff hsplit).1 hmem
      exact ⟨hreached.2 closer hcontains hlt, fun cause => hclosest closer cause hcontains hlt⟩
  blind other hother h := by
    have hsearch : Resolver.search other location.directories {} =
        Resolver.search fs location.directories {} :=
      Resolver.search_congr Resolver.reflects_empty fun below directory above hsplit hbelow =>
        h directory ((reached_iff hsplit).2 hbelow)
    unfold Resolver.properties
    simp only [hlocate, hother, hsearch]

/-- **A lookup sees as far as the nearest root**, if the current directory is known. -/
theorem depends_on_reached {current : Path} (fs : FileSystem) (path : Path)
    (hcurrent : fs.currentDirectory = .ok current) :
    ∃ location, Resolver.locate fs path = .ok location ∧ DependsOnReached fs path location := by
  obtain ⟨location, hlocate⟩ : ∃ location, Resolver.locate fs path = .ok location := by
    unfold Resolver.locate
    split
    · exact ⟨_, rfl⟩
    · exact ⟨_, by rw [hcurrent]⟩
  exact ⟨location, hlocate, dependsOnReached_of_locate hlocate⟩

/-- A root with a malformed file below it and an unreadable file above it. -/
def brokenFiles : FileSystem where
  readText path :=
    if path.text = "/.editorconfig" then .error ⟨.permissionDenied, "permission denied"⟩
    else if path.text = "/src/.editorconfig" then .ok "root=true\n[*]\nindent_size=2"
    else .ok "[*]\ncharset"
  isFile path :=
    ["/.editorconfig", "/src/.editorconfig", "/src/lib/.editorconfig"].contains path.text
  currentDirectory := .ok ⟨"/src"⟩
  configDirectory := none

theorem depends_on_reached_brokenFiles :
    brokenFiles.currentDirectory = .ok ⟨"/src"⟩ ∧
    (Resolver.properties brokenFiles ⟨"a.c"⟩ {}).1 = .ok [("indent_size", "2")] ∧
    (Resolver.properties brokenFiles ⟨"lib/a.c"⟩ {}).1 =
      .error (.editorConfig ⟨"/src/lib/.editorconfig"⟩ 2 "expected `key = value`") ∧
    ∃ location, Resolver.locate brokenFiles ⟨"lib/a.c"⟩ = .ok location ∧
      DependsOnReached brokenFiles ⟨"lib/a.c"⟩ location :=
  ⟨rfl, by decide +kernel, by decide +kernel, depends_on_reached brokenFiles ⟨"lib/a.c"⟩ rfl⟩

end StyleCheck.EditorConfig
