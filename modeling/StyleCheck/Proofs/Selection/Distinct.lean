import StyleCheck.Proofs.Path.Here
import StyleCheck.Selection.Basic
import Mathlib.Data.List.Induction
import Mathlib.Data.List.Nodup

/-!
# How often a file is selected

Two paths are the same when their components are, so a file is listed once for each of the
spellings that it is reached by. Apart from inner `.` components, which no path keeps, there are two
of them: with a `.` in front and without.

**Theorem (`selected_once_per_spelling`).** The list of selected files holds the files in the order
in which they are first reached, no two of them by the same path. A file is listed twice exactly
when it is reached both with a `.` in front and without, which takes an argument of either spelling:
if all arguments start with `.`, or none does, no file is listed twice.

The list is the result of adding the files one by one (`eraseDupsBy_concat`), and what is said of
the list is kept by every addition. How the files are spelled is an induction over the tree that is
walked: each name is joined to a path that is not empty, and leaves the start of it as it is.
-/

namespace StyleCheck.Selection

variable {selection : Selection} {disk : Disk} {home path start file : Path}
  {paths reached files : List Path}

/-! ## How the files that a path leads to are spelled -/

/-- The path starts with `.` if the start of the walk does, unless a name led to the root. -/
structure SpelledAs (start path : Path) : Prop where
  notEmpty : path.text ≠ ""
  startsHere_iff : path.isAbsolute = false → (path.StartsHere ↔ start.StartsHere)

theorem SpelledAs.join (h : SpelledAs start path) (name : String) :
    SpelledAs start (path.join ⟨name⟩) := by
  cases hname : Path.isAbsolute ⟨name⟩ with
  | true =>
    have hjoin : path.join ⟨name⟩ = ⟨name⟩ := by simp [Path.join, hname]
    rw [hjoin]
    refine ⟨?_, fun hrelative => absurd (hname.symm.trans hrelative) (by decide)⟩
    rintro rfl
    exact absurd hname (by decide)
  | false =>
    constructor
    · obtain ⟨front, hjoin, -⟩ := Path.text_join h.notEmpty hname
      intro hempty
      simp [hempty] at hjoin
    · rw [Path.isAbsolute_join h.notEmpty hname, Path.startsHere_join h.notEmpty hname]
      exact h.startsHere_iff

mutual

theorem spelledAs_of_mem_walk {path : Path} {rules : Option Ignore.InForce}
    (h : SpelledAs start path) (node : Node) (hmem : file ∈ walk path rules node) :
    SpelledAs start file := by
  match node with
  | .file _ =>
    rw [walk, List.mem_singleton] at hmem
    exact hmem ▸ h
  | .directory entries =>
    rw [walk] at hmem
    exact spelledAs_of_mem_walkEntries h entries hmem

theorem spelledAs_of_mem_walkEntries {path : Path} {rules : Option Ignore.InForce}
    (h : SpelledAs start path) (entries : List (String × Node))
    (hmem : file ∈ walkEntries path rules entries) : SpelledAs start file := by
  match entries with
  | [] => simp [walkEntries] at hmem
  | (name, node) :: more =>
    rw [walkEntries, List.mem_append] at hmem
    rcases hmem with hmem | hmem
    · split at hmem
      · exact absurd hmem List.not_mem_nil
      · exact spelledAs_of_mem_walk (h.join name) node hmem
    · exact spelledAs_of_mem_walkEntries h more hmem

end

theorem text_ne_of_place {names : List String} (h : disk.place path = .ok names) :
    path.text ≠ "" := by
  intro hempty
  simp [Disk.place, hempty] at h

theorem startsHere_iff_of_mem_found (hmem : file ∈ selection.found disk home path)
    (hrelative : file.isAbsolute = false) : file.StartsHere ↔ path.StartsHere := by
  unfold found at hmem
  split at hmem
  · exact absurd hmem List.not_mem_nil
  next names hplace =>
    have hstart : SpelledAs path path := ⟨text_ne_of_place hplace, fun _ => Iff.rfl⟩
    have hspelled : SpelledAs path file := by
      split at hmem
      · exact spelledAs_of_mem_walk hstart _ hmem
      split at hmem
      · exact absurd hmem List.not_mem_nil
      · exact spelledAs_of_mem_walk hstart _ hmem
    exact hspelled.startsHere_iff hrelative

theorem startsHere_iff_of_mem (h : selection.ofPath disk home path = .ok files)
    (hmem : file ∈ files) (hrelative : file.isAbsolute = false) :
    file.StartsHere ↔ path.StartsHere := by
  unfold ofPath at h
  split at h
  · cases h
    rw [below, List.mem_mergeSort, List.mem_filter] at hmem
    exact startsHere_iff_of_mem_found hmem.1 hrelative
  split at h
  · cases h
    rw [List.mem_filter, List.mem_singleton] at hmem
    rw [hmem.1]
  · cases h

/-! ## Listing files one by one -/

/-- A file is added to the list unless the list has a path that is the same. -/
theorem eraseDupsBy_concat (reached : List Path) (path : Path) :
    (reached ++ [path]).eraseDupsBy Path.same =
      if path.components ∈ reached.map Path.components then reached.eraseDupsBy Path.same
      else reached.eraseDupsBy Path.same ++ [path] := by
  -- What is left behind the first path is not the tail, so this is no induction on the list.
  match reached with
  | [] => simp [List.eraseDupsBy_cons]
  | first :: more =>
    rw [List.cons_append, List.eraseDupsBy_cons, List.eraseDupsBy_cons, List.filter_append]
    by_cases hsame : path.components = first.components
    · simp [Path.same, hsame]
    · have hmem : path.components ∈
            (more.filter fun other => decide (other.same first = false)).map Path.components ↔
          path.components ∈ (first :: more).map Path.components := by
        simp only [List.map_cons, List.mem_cons, hsame, false_or, List.mem_map, List.mem_filter]
        constructor
        · rintro ⟨other, ⟨hother, -⟩, heq⟩
          exact ⟨other, hother, heq⟩
        · rintro ⟨other, hother, heq⟩
          exact ⟨other, ⟨hother, by simpa [Path.same, heq] using hsame⟩, heq⟩
      have hkeep : [path].filter (fun other => decide (other.same first = false)) = [path] := by
        simp [Path.same, hsame]
      rw [hkeep, eraseDupsBy_concat, if_congr hmem rfl rfl]
      split <;> rfl
termination_by reached.length
decreasing_by exact Nat.lt_succ_of_le (List.length_filter_le _ _)

/-- What was listed of the files that were reached. -/
structure Lists (reached files : List Path) : Prop where
  /-- Every file is listed by the path that it was first reached by. -/
  mem_iff : ∀ path, path ∈ files ↔ reached.find? (·.same path) = some path
  /-- The files are listed in the order in which they were first reached. -/
  ordered : files.Pairwise fun path later => reached.idxOf path < reached.idxOf later
  /-- No two files are listed by the same path. -/
  distinct : (files.map Path.components).Nodup
  /-- Every path that was reached is listed. -/
  complete : ∀ components, components ∈ files.map Path.components ↔
    components ∈ reached.map Path.components

theorem same_iff : path.same file = true ↔ path.components = file.components :=
  beq_iff_eq

theorem Lists.mem_reached (h : Lists reached files) (hmem : file ∈ files) : file ∈ reached :=
  List.mem_of_find?_eq_some ((h.mem_iff file).1 hmem)

theorem Lists.ordered_append (h : Lists reached files) (more : List Path) :
    files.Pairwise fun path later =>
      (reached ++ more).idxOf path < (reached ++ more).idxOf later :=
  h.ordered.imp_of_mem fun hpath hlater hlt => by
    rwa [List.idxOf_append_of_mem (h.mem_reached hpath),
      List.idxOf_append_of_mem (h.mem_reached hlater)]

/-- Nothing changes where a path is reached again. -/
theorem Lists.concat_of_mem (h : Lists reached files)
    (hmem : path.components ∈ reached.map Path.components) : Lists (reached ++ [path]) files where
  mem_iff other := by
    have hfind : (reached ++ [path]).find? (·.same other) = reached.find? (·.same other) := by
      rw [List.find?_append]
      cases hfirst : reached.find? (·.same other) with
      | some first => rfl
      | none =>
        obtain ⟨first, hreached, heq⟩ := List.mem_map.1 hmem
        have hdiffer := List.find?_eq_none.1 hfirst first hreached
        rw [same_iff, heq, ← same_iff] at hdiffer
        simp [hdiffer]
    rw [hfind, h.mem_iff]
  ordered := h.ordered_append [path]
  distinct := h.distinct
  complete components := by
    rw [h.complete, List.map_append, List.mem_append, List.map_singleton, List.mem_singleton]
    exact ⟨.inl, fun hor => hor.elim id fun heq => heq ▸ hmem⟩

/-- A path that is reached for the first time is listed last. -/
theorem Lists.concat_of_not_mem (h : Lists reached files)
    (hmem : path.components ∉ reached.map Path.components) :
    Lists (reached ++ [path]) (files ++ [path]) where
  mem_iff other := by
    rw [List.find?_append, List.mem_append, h.mem_iff, List.mem_singleton]
    cases hfirst : reached.find? (·.same other) with
    | none =>
      constructor
      · rintro (hnone | rfl)
        · cases hnone
        · simp [Path.same]
      · intro hfind
        rw [Option.none_or] at hfind
        exact .inr (List.mem_singleton.1 (List.mem_of_find?_eq_some hfind))
    | some first =>
      have hother : other ≠ path := by
        rintro rfl
        have hreached := List.mem_of_find?_eq_some hfirst
        have hsame := List.find?_some hfirst
        exact hmem (List.mem_map.2 ⟨first, hreached, same_iff.1 hsame⟩)
      simp [hother]
  ordered := by
    refine List.pairwise_append.2 ⟨h.ordered_append [path], by simp, ?_⟩
    intro file hfile last hlast
    have hnew : path ∉ reached := fun hreached => hmem (List.mem_map_of_mem hreached)
    rw [List.mem_singleton.1 hlast, List.idxOf_append_of_mem (h.mem_reached hfile),
      List.idxOf_append_of_notMem hnew]
    exact Nat.lt_add_right _ (List.idxOf_lt_length_of_mem (h.mem_reached hfile))
  distinct := by
    rw [List.map_append, List.map_singleton]
    refine List.nodup_append.2 ⟨h.distinct, List.nodup_singleton _, ?_⟩
    intro components hcomponents last hlast heq
    rw [heq, List.mem_singleton.1 hlast, h.complete] at hcomponents
    exact hmem hcomponents
  complete components := by
    rw [List.map_append, List.map_append, List.mem_append, List.mem_append, h.complete]

theorem lists_eraseDupsBy (reached : List Path) :
    Lists reached (reached.eraseDupsBy Path.same) := by
  induction reached using List.reverseRecOn with
  | nil => exact ⟨by simp, by simp, by simp, by simp⟩
  | append_singleton reached path ih =>
    rw [eraseDupsBy_concat]
    split
    next hmem => exact ih.concat_of_mem hmem
    next hmem => exact ih.concat_of_not_mem hmem

/-! ## The files of several paths -/

/-- The files that the paths lead to, one path after the other. -/
def gather (selection : Selection) (disk : Disk) (home : Path) (paths : List Path) : List Path :=
  paths.flatMap fun path => (selection.ofPath disk home path).toOption.getD []

theorem mapM_ofPath_flatten {found : List (List Path)}
    (h : paths.mapM (selection.ofPath disk home) = .ok found) :
    found.flatten = selection.gather disk home paths := by
  induction paths generalizing found with
  | nil =>
    cases h
    rfl
  | cons path paths ih =>
    rw [List.mapM_cons] at h
    cases hpath : selection.ofPath disk home path with
    | error failure =>
      rw [hpath] at h
      cases h
    | ok files =>
      cases hpaths : paths.mapM (selection.ofPath disk home) with
      | error failure =>
        rw [hpath, hpaths] at h
        cases h
      | ok others =>
        rw [hpath, hpaths] at h
        cases h
        rw [List.flatten_cons, ih hpaths, gather, gather, List.flatMap_cons, hpath]
        rfl

theorem lists_of_ofPaths (h : selection.ofPaths disk home paths = .ok files) :
    Lists (selection.gather disk home paths) files := by
  unfold ofPaths at h
  cases hfound : paths.mapM (selection.ofPath disk home) with
  | error failure =>
    rw [hfound] at h
    cases h
  | ok found =>
    rw [hfound] at h
    cases h
    rw [mapM_ofPath_flatten hfound]
    exact lists_eraseDupsBy _

/-- A file that is reached starts as the path that leads to it, unless it is absolute. -/
theorem exists_of_mem_gather (hmem : file ∈ selection.gather disk home paths) :
    ∃ path ∈ paths, file.isAbsolute = false → (file.StartsHere ↔ path.StartsHere) := by
  obtain ⟨path, hpath, hmem⟩ := List.mem_flatMap.1 hmem
  refine ⟨path, hpath, fun hrelative => ?_⟩
  cases hfiles : selection.ofPath disk home path with
  | error failure =>
    rw [hfiles] at hmem
    exact absurd hmem List.not_mem_nil
  | ok files =>
    rw [hfiles] at hmem
    exact startsHere_iff_of_mem hfiles hmem hrelative

theorem Lists.countP_components (h : Lists reached files) (components : List Path.Component) :
    files.countP (·.components = components) =
      if components ∈ reached.map Path.components then 1 else 0 := by
  have hcount : files.countP (·.components = components) =
      (files.map Path.components).count components := by
    rw [List.count_eq_countP, List.countP_map]
    simp only [Function.comp_def, beq_eq_decide]
  simp only [hcount, h.distinct.count, h.complete]

theorem Lists.countP_plain (h : Lists reached files) (path : Path) :
    files.countP (·.plain = path.plain) =
      (if path.plain ∈ reached.map Path.components then 1 else 0) +
        if .here :: path.plain ∈ reached.map Path.components then 1 else 0 := by
  rw [Path.countP_plain, h.countP_components, h.countP_components]

/-- A file that is reached by two spellings is reached from paths that are spelled differently. -/
theorem exists_spellings {components : List Path.Component}
    (hwith : .here :: components ∈ (selection.gather disk home paths).map Path.components)
    (hwithout : components ∈ (selection.gather disk home paths).map Path.components)
    (hplain : .here ∉ components) :
    (∃ path ∈ paths, path.StartsHere) ∧ ∃ path ∈ paths, ¬ path.StartsHere := by
  obtain ⟨file, hfile, hcomponents⟩ := List.mem_map.1 hwith
  obtain ⟨other, hother, rfl⟩ := List.mem_map.1 hwithout
  have hstarts : file.StartsHere := by simp [Path.StartsHere, hcomponents]
  have hfileRelative : file.isAbsolute = false := by
    refine Bool.eq_false_iff.2 fun habsolute => ?_
    have hhead := Path.head?_components_of_isAbsolute habsolute
    simp [hcomponents] at hhead
  -- The components of the other path follow a `.`, and no root does.
  have hotherRelative : other.isAbsolute = false := by
    refine Bool.eq_false_iff.2 fun habsolute => ?_
    have htail : .root ∈ file.components.tail := by
      rw [hcomponents]
      exact List.mem_of_head? (Path.head?_components_of_isAbsolute habsolute)
    exact (Path.ne_of_mem_tail_components htail).1 rfl
  have hnot : ¬ other.StartsHere := fun h => hplain (List.mem_of_head? h)
  obtain ⟨path, hpath, hiff⟩ := exists_of_mem_gather hfile
  obtain ⟨path', hpath', hiff'⟩ := exists_of_mem_gather hother
  exact ⟨⟨path, hpath, (hiff hfileRelative).1 hstarts⟩,
    ⟨path', hpath', mt (hiff' hotherRelative).2 hnot⟩⟩

/-- What is listed of the files that some paths lead to. -/
structure Selects (paths reached files : List Path) : Prop extends Lists reached files where
  /-- A file is listed once for each spelling that it was reached by. -/
  counted : ∀ path : Path, files.countP (·.plain = path.plain) =
    (if path.plain ∈ reached.map Path.components then 1 else 0) +
      if .here :: path.plain ∈ reached.map Path.components then 1 else 0
  /-- No file is listed twice if all of the paths start with `.`, or none of them does. -/
  alike : ((∀ path ∈ paths, path.StartsHere) ∨ ∀ path ∈ paths, ¬ path.StartsHere) →
    (files.map Path.plain).Nodup

/-- A list in which no file is spelled in two ways holds no file twice. -/
theorem Lists.nodup_plain (h : Lists reached files)
    (honce : ∀ path : Path, path.plain ∈ reached.map Path.components →
      .here :: path.plain ∉ reached.map Path.components) :
    (files.map Path.plain).Nodup := by
  refine List.nodup_iff_count_le_one.2 fun plain => ?_
  by_cases hmem : plain ∈ files.map Path.plain
  · obtain ⟨path, -, rfl⟩ := List.mem_map.1 hmem
    rw [List.count_eq_countP, List.countP_map]
    simp only [Function.comp_def, beq_eq_decide, h.countP_plain path]
    by_cases hwithout : path.plain ∈ reached.map Path.components
    · simp [hwithout, honce path hwithout]
    · rw [if_neg hwithout, Nat.zero_add]
      split <;> decide
  · rw [List.count_eq_zero_of_not_mem hmem]
    exact Nat.zero_le 1

/-- **Every file is listed once for each of the two spellings that it is reached by.** -/
theorem selected_once_per_spelling (h : selection.ofPaths disk home paths = .ok files) :
    Selects paths (selection.gather disk home paths) files where
  toLists := lists_of_ofPaths h
  counted := (lists_of_ofPaths h).countP_plain
  alike := by
    refine fun halike => (lists_of_ofPaths h).nodup_plain fun path hwithout hwith => ?_
    obtain ⟨⟨first, hfirst, hstarts⟩, ⟨second, hsecond, hnot⟩⟩ :=
      exists_spellings hwith hwithout (by simp [Path.plain])
    rcases halike with hall | hnone
    · exact hnot (hall second hsecond)
    · exact hnone first hfirst hstarts

/-! ## A file that is listed twice -/

/-- A directory with one file in it. -/
def oneFile : Disk := ⟨.directory [("a.txt", .file [])], []⟩

/-- Nothing is excluded, and ignore files are not heeded. -/
def everything : Selection := ⟨⟨[]⟩, false⟩

/-- The current directory, and the file in it by its name. -/
def hereAndName : List Path := [⟨"."⟩, ⟨"a.txt"⟩]

theorem ofPath_here_oneFile (home : Path) :
    everything.ofPath oneFile home ⟨"."⟩ = .ok [⟨"./a.txt"⟩] := by
  have hdirectory : oneFile.hasDirectory ⟨"."⟩ = true := by decide +kernel
  have hplace : oneFile.place ⟨"."⟩ = .ok [] := by decide +kernel
  have hwalk : walk ⟨"."⟩ none oneFile.root = [⟨"./a.txt"⟩] := by decide +kernel
  have hfound : everything.found oneFile home ⟨"."⟩ = [⟨"./a.txt"⟩] := by
    rw [← hwalk, found, hplace]
    rfl
  rw [ofPath, if_pos hdirectory, below, hfound]
  exact congrArg Except.ok (List.mergeSort_singleton _)

theorem ofPath_name_oneFile (home : Path) :
    everything.ofPath oneFile home ⟨"a.txt"⟩ = .ok [⟨"a.txt"⟩] := by
  have hdirectory : oneFile.hasDirectory ⟨"a.txt"⟩ = false := by decide +kernel
  have hfile : oneFile.hasFile ⟨"a.txt"⟩ = true := by decide +kernel
  rw [ofPath, hdirectory, if_neg Bool.false_ne_true, if_pos hfile]
  rfl

theorem ofPaths_oneFile (home : Path) :
    everything.ofPaths oneFile home hereAndName = .ok [⟨"./a.txt"⟩, ⟨"a.txt"⟩] := by
  have hdistinct : [Path.mk "./a.txt", Path.mk "a.txt"].eraseDupsBy Path.same =
      [⟨"./a.txt"⟩, ⟨"a.txt"⟩] := by decide +kernel
  rw [ofPaths, hereAndName, List.mapM_cons, List.mapM_cons, ofPath_here_oneFile,
    ofPath_name_oneFile]
  exact congrArg Except.ok hdistinct

theorem selected_once_per_spelling_oneFile :
    everything.ofPaths oneFile ⟨"/"⟩ hereAndName = .ok [⟨"./a.txt"⟩, ⟨"a.txt"⟩] ∧
      Selects hereAndName (everything.gather oneFile ⟨"/"⟩ hereAndName)
        [⟨"./a.txt"⟩, ⟨"a.txt"⟩] :=
  ⟨ofPaths_oneFile ⟨"/"⟩, selected_once_per_spelling (ofPaths_oneFile ⟨"/"⟩)⟩

/-- The list may hold two paths that differ in `.` components only. -/
theorem not_nodup_plain_oneFile :
    ∃ files, everything.ofPaths oneFile ⟨"/"⟩ hereAndName = .ok files ∧
      ¬ (files.map Path.plain).Nodup :=
  ⟨_, ofPaths_oneFile ⟨"/"⟩, by decide +kernel⟩

end StyleCheck.Selection
