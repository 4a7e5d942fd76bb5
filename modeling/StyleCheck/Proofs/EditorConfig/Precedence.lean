import StyleCheck.Proofs.EditorConfig.Contents
import StyleCheck.Proofs.Order
import StyleCheck.Proofs.Path.Directories

/-!
# Which assignment wins

**Theorem (`properties_by_precedence`).** The properties that a lookup gives are those of the
winning assignments. A key has the value that the closest file with a matching section for it
assigns, in the last such section; it is absent when nothing assigns it or when the winner takes it
back. The keys stand in the order in which they are first assigned, from the farthest file to the
closest.

The proof writes all the assignments that apply into one list, `ranked`, in the order in which they
are made. Setting the properties file by file and section by section is then setting that list one
by one (`assigned_eq_setAll`), so the last assignment of a key wins and the first one gives it its
place. A later assignment of the same key also has precedence, because the keys of a section are
distinct (`beats_of_before`).
-/

namespace StyleCheck.EditorConfig

/-! ## The files considered -/

/-- The files of the directories that contain a location, up to and with the nearest root, the
closest first. -/
structure Considered (fs : FileSystem) (location : Location)
    (files : List (Location × Contents)) : Prop where
  mem_iff : ∀ directory contents, (directory, contents) ∈ files ↔
    directory.Contains location ∧ Holds fs directory contents ∧
      ∀ closer said, closer.Contains location →
        directory.names.length < closer.names.length → Holds fs closer said → said.root = false
  closestFirst : files.Pairwise fun closer farther =>
    farther.1.names.length < closer.1.names.length

variable {fs : FileSystem} {location directory : Location} {contents : Contents}
  {files : List (Location × Contents)}

/-- The directory is in the list and has a file, and no directory before it is a root. The list has
the closest directory first. -/
def Visible (fs : FileSystem) (directories : List Location) (directory : Location)
    (contents : Contents) : Prop :=
  directory ∈ directories ∧ Holds fs directory contents ∧
    ∀ closer said, closer ∈ directories → directory.names.length < closer.names.length →
      Holds fs closer said → said.root = false

section Chain

variable {first : Location} {directories : List Location} {here : Contents}

theorem Holds.unique {said : Contents} (h : Holds fs directory contents)
    (hsaid : Holds fs directory said) : said = contents := by
  have heq := (consult_eq_some_iff.2 hsaid).symm.trans (consult_eq_some_iff.2 h)
  cases heq
  rfl

theorem visible_cons_of_not_holds (h : ∀ said, ¬ Holds fs first said) :
    Visible fs (first :: directories) directory contents ↔
      Visible fs directories directory contents := by
  constructor
  · rintro ⟨hmem, hholds, hall⟩
    rcases List.mem_cons.1 hmem with rfl | hmem
    · exact absurd hholds (h contents)
    · exact ⟨hmem, hholds, fun closer said hcloser =>
        hall closer said (List.mem_cons_of_mem _ hcloser)⟩
  · rintro ⟨hmem, hholds, hall⟩
    refine ⟨List.mem_cons_of_mem _ hmem, hholds, fun closer said hcloser hlt hsaid => ?_⟩
    rcases List.mem_cons.1 hcloser with rfl | hcloser
    · exact absurd hsaid (h said)
    · exact hall closer said hcloser hlt hsaid

theorem visible_cons_of_holds (hhere : Holds fs first here)
    (hfirst : ∀ farther ∈ directories, farther.names.length < first.names.length) :
    Visible fs (first :: directories) directory contents ↔
      (directory, contents) = (first, here) ∨
        here.root = false ∧ Visible fs directories directory contents := by
  rw [Prod.mk.injEq]
  constructor
  · rintro ⟨hmem, hholds, hall⟩
    rcases List.mem_cons.1 hmem with rfl | hmem
    · exact .inl ⟨rfl, hhere.unique hholds⟩
    · refine .inr ⟨hall first here List.mem_cons_self (hfirst directory hmem) hhere, hmem,
        hholds, fun closer said hcloser => hall closer said (List.mem_cons_of_mem _ hcloser)⟩
  · rintro (⟨rfl, rfl⟩ | ⟨hroot, hmem, hholds, hall⟩)
    · refine ⟨List.mem_cons_self, hhere, fun closer said hcloser hlt => ?_⟩
      -- Nothing in the list is closer than its first directory.
      rcases List.mem_cons.1 hcloser with rfl | hcloser
      · exact absurd hlt (Nat.lt_irrefl _)
      · exact absurd hlt (Nat.lt_asymm (hfirst closer hcloser))
    · refine ⟨List.mem_cons_of_mem _ hmem, hholds, fun closer said hcloser hlt hsaid => ?_⟩
      rcases List.mem_cons.1 hcloser with rfl | hcloser
      · rw [hhere.unique hsaid]
        exact hroot
      · exact hall closer said hcloser hlt hsaid

theorem mem_chain_iff (h : chain fs directories = .ok files)
    (hsorted : directories.Pairwise fun closer farther =>
      farther.names.length < closer.names.length) :
    (directory, contents) ∈ files ↔ Visible fs directories directory contents := by
  induction directories generalizing files with
  | nil =>
    cases h
    simp [Visible]
  | cons first directories ih =>
    obtain ⟨hfirst, hrest⟩ := List.pairwise_cons.1 hsorted
    unfold chain at h
    cases hc : consult fs first with
    | error failure => simp [hc] at h
    | ok found =>
      rw [hc] at h
      -- A directory without a file hides nothing; a root hides all that is farther away.
      cases found with
      | none =>
        have hnone : ∀ said, ¬ Holds fs first said := by
          intro said hsaid
          rw [consult_eq_some_iff.2 hsaid] at hc
          cases hc
        rw [visible_cons_of_not_holds hnone, ih h hrest]
      | some here =>
        dsimp only at h
        rw [visible_cons_of_holds (consult_eq_some_iff.1 hc) hfirst]
        cases hroot : here.root with
        | true =>
          rw [hroot, if_pos rfl] at h
          cases h
          simp
        | false =>
          rw [hroot, if_neg Bool.false_ne_true] at h
          cases hrec : chain fs directories with
          | error failure => simp [hrec, Except.map] at h
          | ok others =>
            simp only [hrec, Except.map, Except.ok.injEq] at h
            rw [← h, List.mem_cons, ih hrec hrest]
            simp

theorem chain_sublist (h : chain fs directories = .ok files) :
    (files.map Prod.fst).Sublist directories := by
  induction directories generalizing files with
  | nil =>
    cases h
    exact .slnil
  | cons first directories ih =>
    unfold chain at h
    cases hc : consult fs first with
    | error failure => simp [hc] at h
    | ok found =>
      rw [hc] at h
      cases found with
      | none => exact (ih h).cons first
      | some here =>
        dsimp only at h
        split at h
        · cases h
          exact (List.nil_sublist directories).cons_cons first
        · cases hrec : chain fs directories with
          | error failure => simp [hrec, Except.map] at h
          | ok others =>
            simp only [hrec, Except.map, Except.ok.injEq] at h
            rw [← h]
            exact (ih hrec).cons_cons first

end Chain

theorem considered_of_chain (h : chain fs location.directories = .ok files) :
    Considered fs location files where
  mem_iff directory contents := by
    rw [mem_chain_iff h (Location.pairwise_directories location)]
    simp only [Visible, Location.mem_directories]
  closestFirst :=
    List.pairwise_map.1
      (List.Pairwise.sublist (chain_sublist h) (Location.pairwise_directories location))

/-! ## Assignments and their ranks -/

/-- An assignment in one of several files: the file, counted from the closest, the section in it
and the place in the section, and what is assigned. -/
structure Assignment where
  file : Nat
  sec : Nat
  place : Nat
  key : String
  value : String

namespace Assignment

variable {a b : Assignment}

/-- The assignment is in one of the files, in a section that matches the path of the location
relative to the directory of that file. -/
def AppliesTo (location : Location) (files : List (Location × Contents)) (a : Assignment) : Prop :=
  ∃ directory contents names sec,
    files[a.file]? = some (directory, contents) ∧
    directory.absolute = location.absolute ∧ location.names = directory.names ++ names ∧
    contents.sections[a.sec]? = some sec ∧ sec.appliesTo (Location.relativePath names) = true ∧
    sec.properties[a.place]? = some (a.key, a.value)

/-- A closer file has precedence, and in one file a later section. -/
def Beats (a b : Assignment) : Prop := a.file < b.file ∨ a.file = b.file ∧ b.sec < a.sec

/-- From the farthest file to the closest, and from the top of a file to its end. -/
def Before (a b : Assignment) : Prop :=
  b.file < a.file ∨ a.file = b.file ∧ (a.sec < b.sec ∨ a.sec = b.sec ∧ a.place < b.place)

theorem Before.irrefl (a : Assignment) : ¬ a.Before a := by
  unfold Before
  omega

theorem Before.not_beats (h : a.Before b) : ¬ a.Beats b := by
  unfold Before at h
  unfold Beats
  omega

/-- What is assigned. -/
def entry (a : Assignment) : String × String := (a.key, a.value)

/-! ## All the assignments, in the order in which they are made -/

/-- The assignments of a section. -/
def ofSection (file sec : Nat) (properties : Properties) : List Assignment :=
  properties.zipIdx.map fun (entry, place) => ⟨file, sec, place, entry.1, entry.2⟩

/-- The assignments of the sections of a file that match a path. -/
def ofSections (file : Nat) (path : List Char) (sections : List Section) : List Assignment :=
  sections.zipIdx.flatMap fun (sec, i) =>
    if sec.appliesTo path then ofSection file i sec.properties else []

/-- The assignments of a file that apply to a location. -/
def ofFile (location : Location) (file : Nat) (directory : Location) (contents : Contents) :
    List Assignment :=
  match location.namesFrom? directory with
  | none => []
  | some names => ofSections file (Location.relativePath names) contents.sections

/-- The assignments that apply to a location, those of the farthest file first. -/
def ranked (location : Location) (files : List (Location × Contents)) : List Assignment :=
  files.zipIdx.reverse.flatMap fun (file, i) => ofFile location i file.1 file.2

theorem mem_ofSection {file sec : Nat} {properties : Properties} :
    a ∈ ofSection file sec properties ↔
      a.file = file ∧ a.sec = sec ∧ properties[a.place]? = some a.entry := by
  obtain ⟨f, s, p, k, v⟩ := a
  simp only [ofSection, List.mem_map, Prod.exists, List.mem_zipIdx_iff_getElem?, entry]
  constructor
  · rintro ⟨key, value, place, hget, heq⟩
    simp only [Assignment.mk.injEq] at heq
    obtain ⟨rfl, rfl, rfl, rfl, rfl⟩ := heq
    exact ⟨rfl, rfl, hget⟩
  · rintro ⟨rfl, rfl, hget⟩
    exact ⟨k, v, p, hget, rfl⟩

theorem mem_ofSections {file : Nat} {path : List Char} {sections : List Section} :
    a ∈ ofSections file path sections ↔
      a.file = file ∧ ∃ sec, sections[a.sec]? = some sec ∧ sec.appliesTo path = true ∧
        sec.properties[a.place]? = some a.entry := by
  simp only [ofSections, List.mem_flatMap, Prod.exists, List.mem_zipIdx_iff_getElem?]
  constructor
  · rintro ⟨sec, i, hget, hmem⟩
    split at hmem
    · next happlies =>
      obtain ⟨hfile, rfl, hplace⟩ := mem_ofSection.1 hmem
      exact ⟨hfile, sec, hget, happlies, hplace⟩
    · cases hmem
  · rintro ⟨hfile, sec, hget, happlies, hplace⟩
    refine ⟨sec, a.sec, hget, ?_⟩
    rw [if_pos happlies]
    exact mem_ofSection.2 ⟨hfile, rfl, hplace⟩

theorem mem_ranked : a ∈ ranked location files ↔ a.AppliesTo location files := by
  simp only [ranked, List.mem_flatMap, List.mem_reverse, Prod.exists,
    List.mem_zipIdx_iff_getElem?, ofFile]
  constructor
  · rintro ⟨directory, contents, i, hget, hmem⟩
    cases hnames : location.namesFrom? directory with
    | none => simp [hnames] at hmem
    | some names =>
      simp only [hnames] at hmem
      obtain ⟨rfl, sec, hsec, happlies, hplace⟩ := mem_ofSections.1 hmem
      obtain ⟨habsolute, heq⟩ := Location.namesFrom?_eq_some_iff.1 hnames
      exact ⟨directory, contents, names, sec, hget, habsolute, heq, hsec, happlies, hplace⟩
  · rintro ⟨directory, contents, names, sec, hget, habsolute, heq, hsec, happlies, hplace⟩
    refine ⟨directory, contents, a.file, hget, ?_⟩
    simp only [Location.namesFrom?_eq_some_iff.2 ⟨habsolute, heq⟩]
    exact mem_ofSections.2 ⟨rfl, sec, hsec, happlies, hplace⟩

/-! ## The list is in order -/

theorem pairwise_ofSections (file : Nat) (path : List Char) (sections : List Section) :
    (ofSections file path sections).Pairwise Before := by
  refine List.pairwise_flatMap.2 ⟨?_, ?_⟩
  · -- Within a section the places ascend, and between two the numbers of the sections do.
    rintro ⟨sec, i⟩ -
    dsimp only
    split
    · refine List.pairwise_map.2 ((pairwise_zipIdx _).imp ?_)
      intro first second hlt
      exact .inr ⟨rfl, .inr ⟨rfl, hlt⟩⟩
    · exact .nil
  · refine (pairwise_zipIdx sections).imp ?_
    rintro ⟨sec, i⟩ ⟨sec', j⟩ hlt a ha b hb
    dsimp only at ha hb hlt
    split at ha
    · split at hb
      · obtain ⟨hfile, hi, -⟩ := mem_ofSection.1 ha
        obtain ⟨hfile', hj, -⟩ := mem_ofSection.1 hb
        exact .inr ⟨hfile.trans hfile'.symm, .inl (by omega)⟩
      · cases hb
    · cases ha

theorem mem_ofFile_file {file : Nat} (h : a ∈ ofFile location file directory contents) :
    a.file = file := by
  unfold ofFile at h
  split at h
  · cases h
  · exact (mem_ofSections.1 h).1

theorem pairwise_ranked (location : Location) (files : List (Location × Contents)) :
    (ranked location files).Pairwise Before := by
  refine List.pairwise_flatMap.2 ⟨?_, ?_⟩
  · rintro ⟨⟨directory, contents⟩, i⟩ -
    dsimp only [ofFile]
    split
    · exact .nil
    · exact pairwise_ofSections _ _ _
  · refine List.pairwise_reverse.2 ((pairwise_zipIdx files).imp ?_)
    rintro ⟨near, i⟩ ⟨far, j⟩ hlt a ha b hb
    rw [← mem_ofFile_file ha, ← mem_ofFile_file hb] at hlt
    exact .inl hlt

/-! ## Setting the properties is setting the list one by one -/

theorem map_entry_ofSection (file sec : Nat) (properties : Properties) :
    (ofSection file sec properties).map entry = properties := by
  rw [ofSection, List.map_map]
  exact List.zipIdx_map_fst 0 properties

theorem map_entry_ofSections (file : Nat) (path : List Char) (sections : List Section) :
    (ofSections file path sections).map entry =
      sections.flatMap fun sec => if sec.appliesTo path then sec.properties else [] := by
  rw [ofSections, List.map_flatMap, ← flatMap_zipIdx sections 0]
  congr 1
  funext ⟨sec, i⟩
  dsimp only
  split
  · exact map_entry_ofSection file i sec.properties
  · rfl

theorem assign_eq_setAll (location : Location) (file : Nat) (properties : Properties)
    (directory : Location) (contents : Contents) :
    Resolver.assign location properties directory contents =
      properties.setAll ((ofFile location file directory contents).map entry) := by
  unfold Resolver.assign ofFile
  cases location.namesFrom? directory with
  | none => rfl
  | some names =>
    simp only [map_entry_ofSections]
    unfold Properties.setAll
    rw [List.foldl_flatMap]
    congr 1
    funext properties sec
    split <;> rfl

theorem assigned_eq_setAll (location : Location) (files : List (Location × Contents)) :
    Resolver.assigned location files =
      Properties.setAll [] ((ranked location files).map entry) := by
  have general : ∀ start, Resolver.assigned location files =
      Properties.setAll [] (((files.zipIdx start).reverse.flatMap fun (file, i) =>
        ofFile location i file.1 file.2).map entry) := by
    unfold Resolver.assigned
    induction files with
    | nil => intro start; rfl
    | cons file files ih =>
      obtain ⟨directory, contents⟩ := file
      intro start
      rw [List.foldr_cons, ih (start + 1), List.zipIdx_cons, List.reverse_cons,
        List.flatMap_append, List.map_append, ← Properties.setAll_setAll,
        List.flatMap_singleton]
      exact assign_eq_setAll location start _ directory contents
  exact general 0

/-! ## Winners -/

/-- The assignment applies and no other one of its key has precedence over it. -/
def Wins (location : Location) (files : List (Location × Contents)) (a : Assignment) : Prop :=
  a.AppliesTo location files ∧
    ∀ b : Assignment, b.AppliesTo location files → b.key = a.key → b = a ∨ a.Beats b

/-- Of two assignments of a key, the later one has precedence. -/
theorem beats_of_before (hkeys : ∀ file ∈ files, file.2.DistinctKeys)
    (ha : a.AppliesTo location files) (hb : b.AppliesTo location files) (hkey : a.key = b.key)
    (h : a.Before b) : b.Beats a := by
  obtain hfile | ⟨hfile, hsec | ⟨hsec, hplace⟩⟩ := h
  · exact .inl hfile
  · exact .inr ⟨hfile.symm, hsec⟩
  · -- In one section the keys are distinct, so the two would be the same.
    obtain ⟨directory, contents, _, sec, hfa, -, -, hsa, -, hpa⟩ := ha
    obtain ⟨_, _, _, _, hfb, -, -, hsb, -, hpb⟩ := hb
    rw [← hfile, hfa] at hfb
    cases hfb
    rw [← hsec, hsa] at hsb
    cases hsb
    have hnodup := hkeys _ (List.mem_of_getElem? hfa) sec (List.mem_of_getElem? hsa)
    have hka : sec.properties.keys[a.place]? = some a.key := by
      simp [Properties.keys, hpa]
    have hkb : sec.properties.keys[b.place]? = some a.key := by
      simp [Properties.keys, hpb, hkey]
    have hlt := (List.getElem?_eq_some_iff.1 hka).1
    have heq : a.place = b.place := (List.getElem?_inj hlt hnodup).1 (hka.trans hkb.symm)
    exact absurd hplace (by omega)

/-- The last assignment of a key in the list is the winner. -/
theorem value?_assigned (hkeys : ∀ file ∈ files, file.2.DistinctKeys) {key value : String} :
    (Resolver.assigned location files).value? key = some value ↔
      ∃ a : Assignment, a.Wins location files ∧ a.key = key ∧ a.value = value := by
  rw [assigned_eq_setAll, Properties.value?_setAll_eq_some]
  have hsorted := pairwise_ranked location files
  constructor
  · rintro ⟨before, after, hsplit, hlast⟩
    obtain ⟨first, rest, hranked, rfl, hrest⟩ := List.map_eq_append_iff.1 hsplit
    obtain ⟨a, last, rfl, ha, rfl⟩ := List.map_eq_cons_iff.1 hrest
    obtain ⟨rfl, rfl⟩ := Prod.mk.inj ha
    rw [hranked] at hsorted
    have happlies : a.AppliesTo location files := mem_ranked.1 (by rw [hranked]; simp)
    refine ⟨a, ⟨happlies, fun b hb hkey => ?_⟩, rfl, rfl⟩
    have hmem : b ∈ first ++ a :: last := hranked ▸ mem_ranked.2 hb
    -- An assignment before the last one is beaten by it, and none comes behind it.
    rcases List.mem_append.1 hmem with hfirst | hmem
    · have hbefore : b.Before a := (List.pairwise_append.1 hsorted).2.2 b hfirst a (by simp)
      exact .inr (beats_of_before hkeys hb happlies hkey hbefore)
    · rcases List.mem_cons.1 hmem with rfl | hlater
      · exact .inl rfl
      · exact absurd hkey (hlast b.entry (List.mem_map.2 ⟨b, hlater, rfl⟩))
  · rintro ⟨a, ⟨happlies, hwins⟩, rfl, rfl⟩
    obtain ⟨first, last, hranked⟩ := List.append_of_mem (mem_ranked.2 happlies)
    refine ⟨first.map entry, last.map entry, by rw [hranked]; simp [entry], ?_⟩
    intro other hother hkey
    obtain ⟨b, hb, rfl⟩ := List.mem_map.1 hother
    have hbefore : a.Before b := by
      rw [hranked] at hsorted
      exact (List.pairwise_cons.1 (List.pairwise_append.1 hsorted).2.1).1 b hb
    have hbapplies : b.AppliesTo location files := mem_ranked.1 (by rw [hranked]; simp [hb])
    rcases hwins b hbapplies hkey with rfl | hbeats
    · exact hbefore.irrefl b
    · exact hbefore.not_beats hbeats

theorem mem_keys_assigned {key : String} :
    key ∈ (Resolver.assigned location files).keys ↔
      ∃ a : Assignment, a.AppliesTo location files ∧ a.key = key := by
  rw [assigned_eq_setAll, Properties.mem_keys_setAll_nil]
  simp only [Properties.keys, List.map_map, List.mem_map, mem_ranked]
  rfl

theorem nodup_assigned (location : Location) (files : List (Location × Contents)) :
    (Resolver.assigned location files).keys.Nodup := by
  rw [assigned_eq_setAll]
  exact Properties.nodup_setAll List.nodup_nil

/-- A key that stands before another has an assignment before all those of the other. -/
theorem pairwise_assigned (location : Location) (files : List (Location × Contents)) :
    (Resolver.assigned location files).keys.Pairwise fun first second =>
      ∃ a : Assignment, a.AppliesTo location files ∧ a.key = first ∧
        ∀ b : Assignment, b.AppliesTo location files → b.key = second → a.Before b := by
  rw [assigned_eq_setAll]
  refine (Properties.pairwise_setAll _).imp ?_
  rintro first second ⟨before, value, after, hsplit, hne⟩
  obtain ⟨earlier, rest, hranked, rfl, hrest⟩ := List.map_eq_append_iff.1 hsplit
  obtain ⟨a, later, rfl, ha, rfl⟩ := List.map_eq_cons_iff.1 hrest
  obtain ⟨rfl, rfl⟩ := Prod.mk.inj ha
  refine ⟨a, mem_ranked.1 (by rw [hranked]; simp), rfl, fun b hb hkey => ?_⟩
  have hsorted := pairwise_ranked location files
  rw [hranked] at hsorted
  have hmem : b ∈ earlier ++ a :: later := hranked ▸ mem_ranked.2 hb
  rcases List.mem_append.1 hmem with hearlier | hmem
  · exact absurd hkey (hne b.entry (List.mem_append_left _ (List.mem_map.2 ⟨b, hearlier, rfl⟩)))
  · rcases List.mem_cons.1 hmem with rfl | hlater
    · exact absurd hkey (hne b.entry (by simp [entry]))
    · exact (List.pairwise_cons.1 (List.pairwise_append.1 hsorted).2.1).1 b hlater

end Assignment

/-! ## Lookups -/

/-- The properties are what the files say of a location. -/
structure Properties.Resolve (properties : Properties) (location : Location)
    (files : List (Location × Contents)) : Prop where
  /-- A key has the value of its winner. -/
  value : ∀ key value, properties.value? key = some value ↔
    value ≠ unsetValue ∧
      ∃ a : Assignment, a.Wins location files ∧ a.key = key ∧ a.value = value
  /-- A key is absent when nothing assigns it or its winner takes it back. -/
  absent : ∀ key, properties.value? key = none ↔
    (∀ a : Assignment, a.AppliesTo location files → a.key ≠ key) ∨
      ∃ a : Assignment, a.Wins location files ∧ a.key = key ∧ a.value = unsetValue
  distinct : properties.keys.Nodup
  /-- Keys stand in the order of their first assignments. -/
  order : properties.keys.Pairwise fun first second =>
    ∃ a : Assignment, a.AppliesTo location files ∧ a.key = first ∧
      ∀ b : Assignment, b.AppliesTo location files → b.key = second → a.Before b

theorem resolve_withoutUnset (hkeys : ∀ file ∈ files, file.2.DistinctKeys) :
    (Resolver.assigned location files).withoutUnset.Resolve location files := by
  have hnodup := Assignment.nodup_assigned location files
  have hkept : (Resolver.assigned location files).withoutUnset.keys.Sublist
      (Resolver.assigned location files).keys :=
    List.filter_sublist.map Prod.fst
  refine ⟨fun key value => ?_, fun key => ?_, hnodup.sublist hkept, ?_⟩
  · rw [Properties.value?_withoutUnset hnodup, Option.filter_eq_some_iff,
      Assignment.value?_assigned hkeys, bne_iff_ne, and_comm]
  · rw [Properties.value?_withoutUnset hnodup]
    cases hvalue : (Resolver.assigned location files).value? key with
    | none =>
      have hnone := Properties.value?_eq_none_iff.1 hvalue
      rw [Assignment.mem_keys_assigned] at hnone
      exact iff_of_true rfl (.inl fun a ha hkey => hnone ⟨a, ha, hkey⟩)
    | some value =>
      obtain ⟨a, hwins, hkey, rfl⟩ := (Assignment.value?_assigned hkeys).1 hvalue
      rw [Option.filter_some_eq_none, bne_iff_ne, not_not]
      constructor
      · intro hunset
        exact .inr ⟨a, hwins, hkey, hunset⟩
      · rintro (hnone | hunset)
        · exact absurd hkey (hnone a hwins.1)
        · rw [(Assignment.value?_assigned hkeys).2 hunset] at hvalue
          exact (Option.some.inj hvalue).symm
  · exact (Assignment.pairwise_assigned location files).sublist hkept

/-- **The properties of a file are those of the winning assignments**, whatever was looked up
before. -/
theorem properties_by_precedence (fs : FileSystem) (earlier : List Path) (path : Path)
    (properties : Properties)
    (h : (Resolver.properties fs path (Resolver.after fs earlier)).1 = .ok properties) :
    ∃ location files, Resolver.locate fs path = .ok location ∧ Considered fs location files ∧
      properties.Resolve location files := by
  rw [Resolver.properties_after] at h
  unfold Resolver.freshProperties at h
  cases hlocate : Resolver.locate fs path with
  | error failure => simp [hlocate] at h
  | ok location =>
    simp only [hlocate] at h
    cases hchain : chain fs location.directories with
    | error failure => simp [hchain, Except.map] at h
    | ok files =>
      simp only [hchain, Except.map, Except.ok.injEq] at h
      have hconsidered := considered_of_chain hchain
      refine ⟨location, files, rfl, hconsidered, ?_⟩
      rw [← h]
      refine resolve_withoutUnset fun file hfile => ?_
      exact ((hconsidered.mem_iff file.1 file.2).1 hfile).2.1.distinctKeys

/-- Two nested files, of which the closer one sets a key that the farther one takes back and takes
back a key that the farther one sets. -/
def nestedFiles : FileSystem where
  readText path :=
    if path.text = "/.editorconfig" then
      .ok "root=true\n[*.c]\ncharset=unset\nindent_style=tab\ntab_width=8"
    else .ok "[*]\ntab_width=4\nindent_style=unset\ncharset=utf-8"
  isFile path := path.text = "/.editorconfig" || path.text = "/src/.editorconfig"
  currentDirectory := .ok ⟨"/"⟩
  configDirectory := none

theorem properties_by_precedence_nestedFiles :
    (Resolver.properties nestedFiles ⟨"src/a.c"⟩
        (Resolver.after nestedFiles [⟨"src/b.h"⟩])).1 =
      .ok [("charset", "utf-8"), ("tab_width", "4")] ∧
    ∃ location files, Resolver.locate nestedFiles ⟨"src/a.c"⟩ = .ok location ∧
      Considered nestedFiles location files ∧
      Properties.Resolve [("charset", "utf-8"), ("tab_width", "4")] location files := by
  have h : (Resolver.properties nestedFiles ⟨"src/a.c"⟩
      (Resolver.after nestedFiles [⟨"src/b.h"⟩])).1 =
        .ok [("charset", "utf-8"), ("tab_width", "4")] := by
    decide +kernel
  exact ⟨h, properties_by_precedence nestedFiles [⟨"src/b.h"⟩] ⟨"src/a.c"⟩ _ h⟩

end StyleCheck.EditorConfig
