import StyleCheck.Proofs.EditorConfig.Chain
import StyleCheck.Proofs.Path.Spelling

/-!
# Lookups while files change

**Theorem (`keeps_run`).** Let lookups of one resolver alternate with arbitrary changes of the
files. What is remembered of a directory stays as it is. Every lookup answers as if it remembered
nothing and saw the files as they are now, except that the settings files of the remembered
directories are as they were when these were remembered. A lookup that fails at a directory
remembers nothing of it and everything of the directories below. No settings file is opened again
after it was read and understood.

For each remembered directory the history keeps its `origin`, the files as they were when it was
remembered. The `overlay` of a history shows each settings file as it is in the origin of its
directory, and all the other files as they are now. The memory reflects the overlay, and the
overlay differs from the present only in what is remembered, so the search finds the chain of the
overlay.
-/

namespace StyleCheck.EditorConfig

variable {fs : FileSystem} {directory other : Location}

/-! ## The directory of a settings file -/

theorem isName_fileName : Path.IsName fileName.text := by
  constructor <;> decide

/-- The directory whose settings file a path leads to, if it leads to one. -/
def directoryOf? (path : Path) : Option Location :=
  let location := Location.ofPath path
  if location.names.getLast? = some fileName.text then
    some ⟨location.absolute, location.names.dropLast⟩
  else none

theorem directoryOf?_fileIn (h : directory.Proper) :
    directoryOf? (fileIn directory) = some directory := by
  unfold directoryOf? fileIn
  rw [Location.ofPath_join_name h isName_fileName]
  simp

/-! ## What a search leaves in the memory -/

namespace Resolver

/-- Of the directories visited, each one is remembered now, with what was remembered before or
else with what was found; of all others the same is remembered as before. -/
structure Visits (fs : FileSystem) (before : Resolver) (visited : List Location)
    (after : Resolver) : Prop where
  remembered : ∀ directory ∈ visited, ∃ found, after.memory directory = some found ∧
    (before.memory directory = some found ∨
      before.memory directory = none ∧ consult fs directory = .ok found)
  untouched : ∀ directory, directory ∉ visited →
    after.memory directory = before.memory directory

variable {before middle after resolver : Resolver} {visited more : List Location}

theorem Visits.keep {found : Option Contents} (h : Visits fs before visited after)
    (hr : before.memory directory = some found) : after.memory directory = some found := by
  by_cases hmem : directory ∈ visited
  · obtain ⟨said, hafter, hbefore | ⟨hbefore, -⟩⟩ := h.remembered directory hmem
    · rw [hafter, ← hbefore, hr]
    · rw [hr] at hbefore
      cases hbefore
  · rw [h.untouched directory hmem, hr]

theorem Visits.trans (h : Visits fs before visited middle) (h' : Visits fs middle more after) :
    Visits fs before (visited ++ more) after where
  remembered directory hmem := by
    by_cases hvisited : directory ∈ visited
    · obtain ⟨found, hmiddle, horigin⟩ := h.remembered directory hvisited
      exact ⟨found, h'.keep hmiddle, horigin⟩
    · obtain ⟨found, hafter, horigin⟩ :=
        h'.remembered directory ((List.mem_append.1 hmem).resolve_left hvisited)
      rw [h.untouched directory hvisited] at horigin
      exact ⟨found, hafter, horigin⟩
  untouched directory hmem := by
    rw [h'.untouched directory fun hm => hmem (List.mem_append_right _ hm),
      h.untouched directory fun hm => hmem (List.mem_append_left _ hm)]

theorem Visits.refl (fs : FileSystem) (resolver : Resolver) : Visits fs resolver [] resolver where
  remembered _ hmem := absurd hmem List.not_mem_nil
  untouched _ _ := rfl

theorem visits_load (fs : FileSystem) (resolver : Resolver) (directory : Location) :
    match load fs resolver directory with
    | (.ok found, after) =>
      Visits fs resolver [directory] after ∧ after.memory directory = some found
    | (.error failure, after) => Visits fs resolver [] after ∧
      consult fs directory = .error failure ∧ after.memory directory = none := by
  obtain ⟨found, hr, hl⟩ | ⟨failure, hr, hc, hl⟩ | ⟨found, hr, hc, hl⟩ :=
    load_cases fs resolver directory
  · rw [hl]
    refine ⟨⟨fun other hmem => ?_, fun other _ => rfl⟩, hr⟩
    rw [List.mem_singleton.1 hmem]
    exact ⟨found, hr, .inl hr⟩
  · rw [hl]
    exact ⟨⟨fun other hmem => absurd hmem List.not_mem_nil, fun other _ => rfl⟩, hc, hr⟩
  · rw [hl]
    refine ⟨⟨fun other hmem => ?_, fun other hmem => ?_⟩, memory_remember_self⟩
    · rw [List.mem_singleton.1 hmem]
      exact ⟨found, memory_remember_self, .inr ⟨hr, hc⟩⟩
    · rw [memory_remember, if_neg fun heq => hmem (List.mem_singleton.2 heq), memory_note]

/-- How a search ends: with all the directories or a root visited, or with a failure of the
directory after those that were visited. -/
def Ends {α : Type} (fs : FileSystem) (visited rest : List Location) (after : Resolver) :
    Except Failure α → Prop
  | .ok _ => rest = [] ∨ ∃ lower root contents, visited = lower ++ [root] ∧
      after.memory root = some (some contents) ∧ contents.root = true
  | .error failure => ∃ directory above, rest = directory :: above ∧
      consult fs directory = .error failure ∧ after.memory directory = none

theorem Ends.map {α β : Type} {rest : List Location} {answer : Except Failure α}
    (h : Ends fs visited rest after answer) (f : α → β) :
    Ends fs visited rest after (answer.map f) := by
  cases answer <;> exact h

theorem Ends.cons {α : Type} {rest : List Location} {answer : Except Failure α}
    (h : Ends fs visited rest after answer) (directory : Location) :
    Ends fs (directory :: visited) rest after answer := by
  cases answer with
  | error failure => exact h
  | ok files =>
    rcases h with hrest | ⟨lower, root, contents, rfl, hroot⟩
    · exact .inl hrest
    · exact .inr ⟨directory :: lower, root, contents, rfl, hroot⟩

/-- A search visits the directories in their order until it ends. -/
theorem visits_search (fs : FileSystem) (directories : List Location) (resolver : Resolver) :
    ∃ visited rest, directories = visited ++ rest ∧
      Visits fs resolver visited (search fs directories resolver).2 ∧
      Ends fs visited rest (search fs directories resolver).2
        (search fs directories resolver).1 := by
  induction directories generalizing resolver with
  | nil => exact ⟨[], [], rfl, Visits.refl fs resolver, .inl rfl⟩
  | cons directory directories ih =>
    have hvisits := visits_load fs resolver directory
    rcases hl : load fs resolver directory with ⟨answer, middle⟩
    rw [hl] at hvisits
    -- A search that goes on ends as the search of the other directories does.
    have hon : ∀ add : List (Location × Contents) → List (Location × Contents),
        Visits fs resolver [directory] middle →
        search fs (directory :: directories) resolver =
          ((search fs directories middle).1.map add, (search fs directories middle).2) →
        ∃ visited rest, directory :: directories = visited ++ rest ∧
          Visits fs resolver visited (search fs (directory :: directories) resolver).2 ∧
          Ends fs visited rest (search fs (directory :: directories) resolver).2
            (search fs (directory :: directories) resolver).1 := by
      intro add hfirst heq
      obtain ⟨visited, rest, hsplit, hmore, hends⟩ := ih middle
      rw [heq]
      exact ⟨directory :: visited, rest, by rw [hsplit]; rfl, hfirst.trans hmore,
        (hends.map add).cons directory⟩
    match answer with
    | .error failure =>
      obtain ⟨hvisits, hc, hr⟩ := hvisits
      refine ⟨[], directory :: directories, rfl, ?_⟩
      simp only [search, hl]
      exact ⟨hvisits, directory, directories, rfl, hc, hr⟩
    | .ok none =>
      refine hon id hvisits.1 ?_
      simp only [search, hl]
      rcases search fs directories middle with ⟨found, last⟩
      cases found <;> rfl
    | .ok (some contents) =>
      by_cases hroot : contents.root = true
      · refine ⟨[directory], directories, rfl, ?_⟩
        simp only [search, hl, if_pos hroot]
        exact ⟨hvisits.1, .inr ⟨[], directory, contents, rfl, hvisits.2, hroot⟩⟩
      · refine hon (fun files => (directory, contents) :: files) hvisits.1 ?_
        simp only [search, hl, if_neg hroot]
        rcases search fs directories middle with ⟨found, last⟩
        cases found <;> rfl

/-! ## Files that were read and understood -/

/-- What is read and understood is remembered, and it is not opened again. The latest reading
comes first in the list. -/
structure ReadsOnce (resolver : Resolver) : Prop where
  remembered : ∀ reading ∈ resolver.readings, reading.contents.isOk = true →
    (resolver.memory reading.directory).isSome = true
  once : resolver.readings.Pairwise fun later earlier =>
    earlier.contents.isOk = true → later.directory ≠ earlier.directory

theorem mem_of? {reading : Reading} (h : reading ∈ (Reading.of? fs directory).toList) :
    reading.directory = directory ∧ consult fs directory = reading.contents.map some := by
  rw [Option.mem_toList] at h
  unfold consult
  rw [h]
  unfold Reading.of? at h
  split at h
  · cases h
    exact ⟨rfl, rfl⟩
  · cases h

theorem ReadsOnce.load (h : resolver.ReadsOnce) (fs : FileSystem) (directory : Location) :
    (load fs resolver directory).2.ReadsOnce := by
  -- Nothing is remembered of a directory whose file is opened, so it was not understood before.
  have honce : resolver.memory directory = none →
      (resolver.note fs directory).readings.Pairwise fun later earlier =>
        earlier.contents.isOk = true → later.directory ≠ earlier.directory := by
    intro hr
    refine List.pairwise_append.2 ⟨?_, h.once, ?_⟩
    · cases Reading.of? fs directory <;> simp
    · intro later hlater earlier hearlier hok heq
      have hsome := h.remembered earlier hearlier hok
      rw [← heq, (mem_of? hlater).1, hr] at hsome
      cases hsome
  obtain ⟨found, hr, hl⟩ | ⟨failure, hr, hc, hl⟩ | ⟨found, hr, hc, hl⟩ :=
    load_cases fs resolver directory
  · rw [hl]
    exact h
  · rw [hl]
    refine ⟨fun reading hmem hok => ?_, honce hr⟩
    rcases List.mem_append.1 hmem with hnew | hold
    · have hsays := (mem_of? hnew).2
      rw [hc] at hsays
      cases hcontents : reading.contents with
      | error _ => simp [hcontents, Except.isOk, Except.toBool] at hok
      | ok _ => simp [hcontents, Except.map] at hsays
    · exact h.remembered reading hold hok
  · rw [hl]
    refine ⟨fun reading hmem hok => ?_, honce hr⟩
    rw [memory_remember]
    split
    · rfl
    next hne =>
      rcases List.mem_append.1 hmem with hnew | hold
      · exact absurd (mem_of? hnew).1 hne
      · exact h.remembered reading hold hok

theorem readsOnce_empty : ReadsOnce {} where
  remembered _ hmem := absurd hmem List.not_mem_nil
  once := .nil

/-- A lookup searches, or else leaves the resolver as it is. -/
theorem properties_resolver (fs : FileSystem) (path : Path) (resolver : Resolver) :
    (properties fs path resolver).2 =
      match locate fs path with
      | .error _ => resolver
      | .ok location => (search fs location.directories resolver).2 := by
  unfold properties
  cases locate fs path with
  | error failure => rfl
  | ok location =>
    rcases hs : search fs location.directories resolver with ⟨found, after⟩
    cases found <;> simp [hs]

theorem ReadsOnce.properties (h : resolver.ReadsOnce) (fs : FileSystem) (path : Path) :
    (properties fs path resolver).2.ReadsOnce := by
  rw [properties_resolver]
  split
  · exact h
  · exact search_induction (fun _ directory _ hr => hr.load fs directory) h

end Resolver

/-! ## Histories -/

/-- What can happen: the files become other files, or the properties of a file are looked up. -/
inductive Event
  | change (files : FileSystem)
  | lookup (path : Path)

/-- The files as they are now, the resolver, and for each directory that is remembered the files
as they were when it was remembered. -/
structure History where
  files : FileSystem
  resolver : Resolver := {}
  origin : Location → Option FileSystem := fun _ => none

namespace History

variable {h : History} {path : Path} {events : List Event}

/-- What a lookup answers. -/
def answer (h : History) (path : Path) : Except Failure Properties :=
  (Resolver.properties h.files path h.resolver).1

/-- The history with one more lookup. -/
def lookup (h : History) (path : Path) : History :=
  let resolver := (Resolver.properties h.files path h.resolver).2
  { h with
    resolver := resolver
    origin := fun directory => (h.origin directory).or
      (if (resolver.memory directory).isSome then some h.files else none) }

/-- The history with one more event. -/
def step (h : History) : Event → History
  | .change files => { h with files := files }
  | .lookup path => h.lookup path

/-- The history with more events. -/
def run (h : History) (events : List Event) : History := events.foldl step h

/-- The files as they are now, but the settings files of the directories that are remembered as
they were when these were remembered. -/
def overlay (h : History) : FileSystem :=
  let source (path : Path) := ((directoryOf? path).bind h.origin).getD h.files
  { h.files with
    readText := fun path => (source path).readText path
    isFile := fun path => (source path).isFile path }

theorem consult_overlay (hproper : directory.Proper) :
    consult h.overlay directory = consult ((h.origin directory).getD h.files) directory := by
  unfold consult Reading.of? overlay
  simp only [directoryOf?_fileIn hproper, Option.bind_some]

/-- The origins are those of the directories that are remembered, and say what is remembered. -/
structure Sound (h : History) : Prop where
  origin_none : ∀ directory, h.resolver.memory directory = none → h.origin directory = none
  origin_some : ∀ directory found, h.resolver.memory directory = some found →
    directory.Proper ∧ ∃ files, h.origin directory = some files ∧
      consult files directory = .ok found
  readsOnce : h.resolver.ReadsOnce

theorem sound_start (files : FileSystem) : Sound { files := files } where
  origin_none _ _ := rfl
  origin_some directory found hr := by simp at hr
  readsOnce := Resolver.readsOnce_empty

theorem proper_of_locate {location : Location}
    (hlocate : Resolver.locate fs path = .ok location) : location.Proper := by
  unfold Resolver.locate at hlocate
  split at hlocate
  · cases hlocate
    exact Location.proper_ofPath path
  · split at hlocate
    · cases hlocate
    · cases hlocate
      exact Location.proper_ofPath _

/-- Every directory that a lookup visits is one whose settings file has a path of its own. -/
theorem exists_visits (files : FileSystem) (path : Path) (resolver : Resolver) :
    ∃ visited, (∀ directory ∈ visited, directory.Proper) ∧
      Resolver.Visits files resolver visited (Resolver.properties files path resolver).2 := by
  rw [Resolver.properties_resolver]
  cases hlocate : Resolver.locate files path with
  | error failure => exact ⟨[], by simp, Resolver.Visits.refl files resolver⟩
  | ok location =>
    obtain ⟨visited, rest, hsplit, hvisits, -⟩ :=
      Resolver.visits_search files location.directories resolver
    refine ⟨visited, fun directory hmem => ?_, hvisits⟩
    have hcontains : directory.Contains location :=
      Location.mem_directories.1 (hsplit ▸ List.mem_append_left rest hmem)
    exact (proper_of_locate hlocate).of_contains hcontains

theorem Sound.lookup (hs : h.Sound) (path : Path) : (h.lookup path).Sound := by
  obtain ⟨visited, hproper, hvisits⟩ := exists_visits h.files path h.resolver
  refine ⟨fun directory hr => ?_, fun directory found hr => ?_,
    hs.readsOnce.properties h.files path⟩
  · have hnow : (Resolver.properties h.files path h.resolver).2.memory directory = none := hr
    have hbefore : h.resolver.memory directory = none := by
      cases hbefore : h.resolver.memory directory with
      | none => rfl
      | some found => exact (hnow.symm.trans (hvisits.keep hbefore)).symm
    simp [History.lookup, hs.origin_none directory hbefore, hnow]
  · -- An entry is an old one, which was kept, or one of a directory that was visited now.
    have hnow : (Resolver.properties h.files path h.resolver).2.memory directory = some found := hr
    cases hbefore : h.resolver.memory directory with
    | some old =>
      obtain ⟨hp, files, horigin, hc⟩ := hs.origin_some directory old hbefore
      rw [hvisits.keep hbefore] at hnow
      cases hnow
      exact ⟨hp, files, by simp [History.lookup, horigin], hc⟩
    | none =>
      by_cases hmem : directory ∈ visited
      · obtain ⟨said, hafter, hold | ⟨-, hc⟩⟩ := hvisits.remembered directory hmem
        · rw [hbefore] at hold
          cases hold
        · rw [hnow] at hafter
          cases hafter
          refine ⟨hproper directory hmem, h.files, ?_, hc⟩
          simp [History.lookup, hs.origin_none directory hbefore, hnow]
      · rw [hvisits.untouched directory hmem, hbefore] at hnow
        cases hnow

theorem Sound.run (hs : h.Sound) (events : List Event) : (h.run events).Sound := by
  induction events generalizing h with
  | nil => exact hs
  | cons event events ih =>
    cases event with
    | change files => exact ih ⟨hs.origin_none, hs.origin_some, hs.readsOnce⟩
    | lookup path => exact ih (hs.lookup path)

theorem memory_run {found : Option Contents} (hr : h.resolver.memory directory = some found)
    (events : List Event) : (h.run events).resolver.memory directory = some found := by
  induction events generalizing h with
  | nil => exact hr
  | cons event events ih =>
    cases event with
    | change files => exact ih hr
    | lookup path =>
      obtain ⟨visited, -, hvisits⟩ := exists_visits h.files path h.resolver
      exact ih (hvisits.keep hr)

theorem origin_run {files : FileSystem} (ho : h.origin directory = some files)
    (events : List Event) : (h.run events).origin directory = some files := by
  induction events generalizing h with
  | nil => exact ho
  | cons event events ih =>
    cases event with
    | change _ => exact ih ho
    | lookup path => exact ih (by simp [step, History.lookup, ho])

theorem Sound.answer_eq (hs : h.Sound) (path : Path) :
    h.answer path = (Resolver.properties h.overlay path {}).1 := by
  have hreflects : h.resolver.Reflects h.overlay := by
    intro directory found hr
    obtain ⟨hproper, files, horigin, hc⟩ := hs.origin_some directory found hr
    rw [consult_overlay hproper, horigin]
    exact hc
  have hsame : ∀ location, Resolver.locate h.files path = .ok location →
      ∀ directory ∈ location.directories, h.resolver.memory directory = none →
        consult h.files directory = consult h.overlay directory := by
    intro location hlocate directory hmem hr
    have hproper := (proper_of_locate hlocate).of_contains (Location.mem_directories.1 hmem)
    rw [consult_overlay hproper, hs.origin_none directory hr]
    rfl
  have hlocate : Resolver.locate h.files path = Resolver.locate h.overlay path := rfl
  rw [Resolver.properties_empty]
  exact (Resolver.properties_of_reflects path hreflects hlocate hsame).1

/-- How a lookup ends: without a location for the path, or as its search of the directories. -/
theorem lookup_cases (h : History) (path : Path) :
    (∃ failure, Resolver.locate h.files path = .error failure ∧ h.answer path = .error failure ∧
      (h.lookup path).resolver = h.resolver) ∨
    (∃ location visited rest, Resolver.locate h.files path = .ok location ∧
      location.directories = visited ++ rest ∧
      Resolver.Visits h.files h.resolver visited (h.lookup path).resolver ∧
      Resolver.Ends h.files visited rest (h.lookup path).resolver (h.answer path)) := by
  have hresolver : (h.lookup path).resolver =
      (Resolver.properties h.files path h.resolver).2 := rfl
  rw [hresolver, Resolver.properties_resolver]
  unfold answer Resolver.properties
  cases hlocate : Resolver.locate h.files path with
  | error failure => exact .inl ⟨failure, rfl, rfl, rfl⟩
  | ok location =>
    obtain ⟨visited, rest, hsplit, hvisits, hends⟩ :=
      Resolver.visits_search h.files location.directories h.resolver
    refine .inr ⟨location, visited, rest, rfl, hsplit, hvisits, ?_⟩
    dsimp only
    rcases hs : Resolver.search h.files location.directories h.resolver with ⟨found, after⟩
    rw [hs] at hends
    cases found with
    | error failure => exact hends
    | ok files => exact hends.map fun files => (Resolver.assigned location files).withoutUnset

/-- What a memory that is kept through changes of the files promises. -/
structure Keeps (h : History) : Prop where
  /-- What is remembered of a directory is what its settings file said when it was remembered. -/
  memory_origin : ∀ directory found, h.resolver.memory directory = some found →
    ∃ files, h.origin directory = some files ∧ consult files directory = .ok found
  /-- Only directories that are remembered have an origin. -/
  origin_memory : ∀ directory files, h.origin directory = some files →
    (h.resolver.memory directory).isSome = true
  /-- What is remembered stays, whatever happens. -/
  persistent : ∀ directory found, h.resolver.memory directory = some found →
    ∀ further, (h.run further).resolver.memory directory = some found ∧
      (h.run further).origin directory = h.origin directory
  /-- A lookup answers like a fresh resolver that sees the overlay. -/
  answer_eq : ∀ path, h.answer path = (Resolver.properties h.overlay path {}).1
  /-- A lookup that succeeds remembers every directory up to the end or the nearest root. -/
  success : ∀ path properties, h.answer path = .ok properties →
    ∃ location visited rest, Resolver.locate h.files path = .ok location ∧
      location.directories = visited ++ rest ∧
      Resolver.Visits h.files h.resolver visited (h.lookup path).resolver ∧
      (rest = [] ∨ ∃ lower root contents, visited = lower ++ [root] ∧
        (h.lookup path).resolver.memory root = some (some contents) ∧ contents.root = true)
  /-- A lookup that fails at a directory remembers the directories below, and does not remember
  that directory. -/
  failure : ∀ path failure, h.answer path = .error failure →
    (Resolver.locate h.files path = .error failure ∧ (h.lookup path).resolver = h.resolver) ∨
    ∃ location below directory above, Resolver.locate h.files path = .ok location ∧
      location.directories = below ++ directory :: above ∧
      consult h.files directory = .error failure ∧
      (h.lookup path).resolver.memory directory = none ∧
      Resolver.Visits h.files h.resolver below (h.lookup path).resolver
  /-- After a settings file was read and understood it is not opened again; the latest reading
  comes first. -/
  once : h.resolver.readings.Pairwise fun later earlier =>
    earlier.contents.isOk = true → later.directory ≠ earlier.directory

/-- **Lookups keep their memory while the files change.** -/
theorem keeps_run (files : FileSystem) (events : List Event) :
    (run { files := files } events).Keeps := by
  have hs := (sound_start files).run events
  generalize run { files := files } events = h at hs
  refine ⟨fun directory found hr => ?_, fun directory files ho => ?_,
    fun directory found hr further => ?_, hs.answer_eq, fun path properties ha => ?_,
    fun path failure ha => ?_, hs.readsOnce.once⟩
  · obtain ⟨-, hsays⟩ := hs.origin_some directory found hr
    exact hsays
  · cases hr : h.resolver.memory directory with
    | some found => rfl
    | none =>
      rw [hs.origin_none directory hr] at ho
      cases ho
  · obtain ⟨-, files, ho, -⟩ := hs.origin_some directory found hr
    rw [ho]
    exact ⟨memory_run hr further, origin_run ho further⟩
  · obtain ⟨failure, -, herror, -⟩ |
      ⟨location, visited, rest, hlocate, hsplit, hvisits, hends⟩ := lookup_cases h path
    · rw [herror] at ha
      cases ha
    · rw [ha] at hends
      exact ⟨location, visited, rest, hlocate, hsplit, hvisits, hends⟩
  · obtain ⟨cause, hlocate, herror, hsame⟩ |
      ⟨location, below, rest, hlocate, hsplit, hvisits, hends⟩ := lookup_cases h path
    · rw [herror] at ha
      cases ha
      exact .inl ⟨hlocate, hsame⟩
    · rw [ha] at hends
      obtain ⟨directory, above, rfl, hc, hr⟩ := hends
      exact .inr ⟨location, below, directory, above, hlocate, hsplit, hc, hr, hvisits⟩

end History

end StyleCheck.EditorConfig
