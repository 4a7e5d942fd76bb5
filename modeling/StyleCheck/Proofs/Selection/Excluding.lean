import StyleCheck.Proofs.Order
import StyleCheck.Proofs.Selection.Distinct

/-!
# Excluding more files

**Theorem (`ofPaths_excluding`).** With further exclude patterns the same files are selected in the
same order, without those that a further pattern matches; and where one selection fails, so does the
other.

A filter lets a path pass or not by its components alone. So leaving files out commutes with all
that is done to them: with sorting, because a part of a sorted list is the part sorted alone
(`filter_mergeSort`), and with listing every file once, because a file is left out by all of its
spellings that count as one, or by none (`filter_eraseDupsBy`).
-/

namespace StyleCheck

/-! ## The order of paths -/

namespace Path

variable {path other : Path}

theorem Component.ranksBy :
    RanksBy Component.le (fun component => (component.rank : Int)) Component.text where
  le_iff {a b} := by cases a <;> cases b <;> simp [Component.le, Component.rank, Component.text]

theorem Component.le_antisymm {a b : Component} (hab : a.le b = true) (hba : b.le a = true) :
    a = b := by
  obtain ⟨hrank, htext⟩ := ranksBy.antisymm hab hba
  cases a <;> cases b <;> simp_all [Component.rank, Component.text]

theorem componentsLe_trans {as bs cs : List Component} (hab : componentsLe as bs = true)
    (hbc : componentsLe bs cs = true) : componentsLe as cs = true := by
  induction as generalizing bs cs with
  | nil => rfl
  | cons a as ih =>
    cases bs with
    | nil => cases hab
    | cons b bs =>
      cases cs with
      | nil => cases hbc
      | cons c cs =>
        rw [componentsLe] at *
        by_cases hfirst : a = b
        · subst hfirst
          by_cases hsecond : a = c
          · simp only [hsecond, if_true] at *
            exact ih hab hbc
          · simpa [hsecond] using hbc
        · by_cases hsecond : b = c
          · subst hsecond
            simpa [hfirst] using hab
          · rw [if_neg hfirst] at hab
            rw [if_neg hsecond] at hbc
            -- No component stands on both sides of another one.
            have hne : a ≠ c := by
              rintro rfl
              exact hfirst (Component.le_antisymm hab hbc)
            rw [if_neg hne]
            exact Component.ranksBy.trans hab hbc

theorem componentsLe_total (as bs : List Component) :
    componentsLe as bs = true ∨ componentsLe bs as = true := by
  induction as generalizing bs with
  | nil => exact .inl rfl
  | cons a as ih =>
    cases bs with
    | nil => exact .inr rfl
    | cons b bs =>
      rw [componentsLe, componentsLe]
      by_cases heq : a = b
      · simpa [heq] using ih bs
      · simpa [heq, Ne.symm heq] using Component.ranksBy.total a b

theorem filter_mergeSort_le (keep : Path → Bool) (paths : List Path) :
    (paths.mergeSort le).filter keep = (paths.filter keep).mergeSort le :=
  filter_mergeSort le (fun _ _ _ => componentsLe_trans)
    (fun _ _ => Bool.or_eq_true_iff.2 (componentsLe_total _ _)) keep paths

theorem clean_congr (h : path.components = other.components) : path.clean = other.clean := by
  rw [clean, clean, h]

end Path

/-! ## What a list of patterns excludes -/

namespace Exclude

variable {patterns more : List String} {filter narrow : Filter} {path other : Path}

/-- Whether the pattern is a glob that matches the path. -/
def drops (pattern : String) (path : Path) : Bool :=
  match Glob.ofPattern .exclude pattern with
  | .ok glob => glob.isMatch path.clean.text
  | .error _ => false

theorem excludes_of_ofPatterns (h : Filter.ofPatterns patterns = .ok filter) (path : Path) :
    filter.excludes path = patterns.any (drops · path) := by
  induction patterns generalizing filter with
  | nil =>
    cases h
    rfl
  | cons pattern patterns ih =>
    rw [Filter.ofPatterns] at h
    cases hglob : Glob.ofPattern .exclude pattern with
    | error error =>
      rw [hglob] at h
      cases h
    | ok glob =>
      cases hrest : Filter.ofPatterns patterns with
      | error error =>
        rw [hglob, hrest] at h
        cases h
      | ok rest =>
        rw [hglob, hrest] at h
        cases h
        rw [List.any_cons, ← ih hrest, drops, hglob]
        rfl

/-- Whether a pattern that is not among some others matches the path. -/
def dropsFurther (patterns more : List String) (path : Path) : Bool :=
  more.any fun pattern => !patterns.contains pattern && drops pattern path

theorem dropsFurther_congr (h : path.components = other.components) :
    dropsFurther patterns more path = dropsFurther patterns more other := by
  simp only [dropsFurther, drops, Path.clean_congr h]

theorem any_eq_or_dropsFurther (hsub : patterns ⊆ more) (path : Path) :
    more.any (drops · path) = (patterns.any (drops · path) || dropsFurther patterns more path) := by
  rw [Bool.eq_iff_iff, Bool.or_eq_true, dropsFurther, List.any_eq_true, List.any_eq_true,
    List.any_eq_true]
  constructor
  · rintro ⟨pattern, hmem, hdrops⟩
    by_cases hold : pattern ∈ patterns
    · exact .inl ⟨pattern, hold, hdrops⟩
    · exact .inr ⟨pattern, hmem, by simp [hold, hdrops]⟩
  · rintro (⟨pattern, hmem, hdrops⟩ | ⟨pattern, hmem, hdrops⟩)
    · exact ⟨pattern, hsub hmem, hdrops⟩
    · exact ⟨pattern, hmem, (Bool.and_eq_true_iff.1 hdrops).2⟩

theorem includes_of_subset (h : Filter.ofPatterns patterns = .ok filter)
    (hmore : Filter.ofPatterns more = .ok narrow) (hsub : patterns ⊆ more) (path : Path) :
    narrow.includes path = (filter.includes path && !dropsFurther patterns more path) := by
  rw [Filter.includes, Filter.includes, excludes_of_ofPatterns h, excludes_of_ofPatterns hmore,
    any_eq_or_dropsFurther hsub, Bool.not_or]

end Exclude

/-! ## What is selected -/

namespace Selection

variable {wide narrow : Selection} {keep : Path → Bool} {disk : Disk} {home path : Path}
  {paths reached : List Path}

/-- One selection selects the files of the other that are kept, and a file is kept by all of its
spellings that are the same, or by none. -/
structure Narrows (wide narrow : Selection) (keep : Path → Bool) : Prop where
  heeds_eq : narrow.heedsIgnoreFiles = wide.heedsIgnoreFiles
  includes_eq : ∀ path, narrow.filter.includes path = (wide.filter.includes path && keep path)
  keep_congr : ∀ path other : Path, path.components = other.components → keep path = keep other

theorem Narrows.filter_includes (h : Narrows wide narrow keep) (files : List Path) :
    files.filter narrow.filter.includes = (files.filter wide.filter.includes).filter keep := by
  rw [List.filter_filter]
  exact List.filter_congr fun file _ => by rw [h.includes_eq, Bool.and_comm]

theorem Narrows.found_eq (h : Narrows wide narrow keep) :
    narrow.found disk home path = wide.found disk home path := by
  simp only [found, h.heeds_eq]

theorem Narrows.ofPath_eq (h : Narrows wide narrow keep) (disk : Disk) (home path : Path) :
    narrow.ofPath disk home path = (wide.ofPath disk home path).map (List.filter keep) := by
  unfold ofPath
  split
  · rw [below, below, h.found_eq, h.filter_includes, ← Path.filter_mergeSort_le]
    rfl
  split
  · rw [h.filter_includes]
    rfl
  · rfl

/-- Listing every file once commutes with leaving files out by all of their spellings. -/
theorem filter_eraseDupsBy
    (hkeep : ∀ path other : Path, path.components = other.components → keep path = keep other)
    (reached : List Path) :
    (reached.eraseDupsBy Path.same).filter keep = (reached.filter keep).eraseDupsBy Path.same := by
  induction reached using List.reverseRecOn with
  | nil => rfl
  | append_singleton reached path ih =>
    rw [eraseDupsBy_concat, List.filter_append]
    cases hpath : keep path with
    | false =>
      have hlast : [path].filter keep = [] := by simp [hpath]
      rw [hlast, List.append_nil, ← ih]
      split
      · rfl
      · rw [List.filter_append, hlast, List.append_nil]
    | true =>
      have hlast : [path].filter keep = [path] := by simp [hpath]
      -- What is the same as a kept path is kept, so both sides drop the new path or neither.
      have hmem : path.components ∈ (reached.filter keep).map Path.components ↔
          path.components ∈ reached.map Path.components := by
        simp only [List.mem_map, List.mem_filter]
        constructor
        · rintro ⟨other, ⟨hother, -⟩, heq⟩
          exact ⟨other, hother, heq⟩
        · rintro ⟨other, hother, heq⟩
          exact ⟨other, ⟨hother, (hkeep other path heq).trans hpath⟩, heq⟩
      rw [hlast, eraseDupsBy_concat, if_congr hmem rfl rfl, ← ih]
      split
      · rfl
      · rw [List.filter_append, hlast]

theorem Narrows.mapM_ofPath_eq (h : Narrows wide narrow keep) (disk : Disk) (home : Path)
    (paths : List Path) :
    paths.mapM (narrow.ofPath disk home) =
      (paths.mapM (wide.ofPath disk home)).map (List.map (List.filter keep)) := by
  induction paths with
  | nil => rfl
  | cons path paths ih =>
    rw [List.mapM_cons, List.mapM_cons, ih, h.ofPath_eq]
    cases wide.ofPath disk home path with
    | error failure => rfl
    | ok files => cases paths.mapM (wide.ofPath disk home) <;> rfl

theorem Narrows.ofPaths_eq (h : Narrows wide narrow keep) (disk : Disk) (home : Path)
    (paths : List Path) :
    narrow.ofPaths disk home paths = (wide.ofPaths disk home paths).map (List.filter keep) := by
  rw [ofPaths, ofPaths, h.mapM_ofPath_eq]
  cases paths.mapM (wide.ofPath disk home) with
  | error failure => rfl
  | ok found =>
    show Except.ok _ = Except.ok _
    rw [filter_eraseDupsBy h.keep_congr, List.filter_flatten]

/-- **Further patterns leave out the files that they match**, and nothing else changes. -/
theorem ofPaths_excluding {patterns more : List String} {filter further : Exclude.Filter}
    (hfilter : Exclude.Filter.ofPatterns patterns = .ok filter)
    (hfurther : Exclude.Filter.ofPatterns more = .ok further) (hsub : patterns ⊆ more)
    (heedsIgnoreFiles : Bool) (disk : Disk) (home : Path) (paths : List Path) :
    Selection.ofPaths ⟨further, heedsIgnoreFiles⟩ disk home paths =
      (Selection.ofPaths ⟨filter, heedsIgnoreFiles⟩ disk home paths).map
        (List.filter fun file => !Exclude.dropsFurther patterns more file) := by
  have hnarrows : Narrows ⟨filter, heedsIgnoreFiles⟩ ⟨further, heedsIgnoreFiles⟩
      fun file => !Exclude.dropsFurther patterns more file :=
    { heeds_eq := rfl
      includes_eq := Exclude.includes_of_subset hfilter hfurther hsub
      keep_congr := fun _ _ h => congrArg Bool.not (Exclude.dropsFurther_congr h) }
  exact hnarrows.ofPaths_eq disk home paths

/-- A further pattern leaves a file out by both of its spellings. -/
theorem ofPaths_excluding_oneFile :
    Exclude.Filter.ofPatterns [] = .ok ⟨[]⟩ ∧ [] ⊆ ["a.*"] ∧
      ∃ further, Exclude.Filter.ofPatterns ["a.*"] = .ok further ∧
        Selection.ofPaths ⟨further, false⟩ oneFile ⟨"/"⟩ hereAndName = .ok [] := by
  have hok : (Exclude.Filter.ofPatterns ["a.*"]).isOk = true := by decide +kernel
  cases hfurther : Exclude.Filter.ofPatterns ["a.*"] with
  | error error =>
    rw [hfurther] at hok
    cases hok
  | ok further =>
    refine ⟨rfl, List.nil_subset _, further, rfl, ?_⟩
    have hdrops : [Path.mk "./a.txt", Path.mk "a.txt"].filter
        (fun file => !Exclude.dropsFurther [] ["a.*"] file) = [] := by decide +kernel
    have hnone : Exclude.Filter.ofPatterns [] = .ok ⟨[]⟩ := rfl
    rw [ofPaths_excluding hnone hfurther (List.nil_subset _) false,
      show Selection.mk ⟨[]⟩ false = everything from rfl, ofPaths_oneFile]
    exact congrArg Except.ok hdrops

end Selection

end StyleCheck
