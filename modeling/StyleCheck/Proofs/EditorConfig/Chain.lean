import StyleCheck.EditorConfig.Resolver

/-!
# What a search finds, said without a memory

`chain fs directories` is what the directories say when every one of them is consulted afresh, up
to and with the first root. The search of a resolver consults a directory only when it remembers
nothing of it, so its answer depends on what it remembers.

**Theorem (`search_eq_chain`).** Let the memory reflect a file system `ideal`: every entry is what
consulting the directory there would give. If the directories without an entry look the same in
`fs` as in `ideal`, then a search in `fs` finds the chain of `ideal`, and the memory still reflects
`ideal` afterwards.

With `ideal = fs` this is a memory that agrees with the file system; with another `ideal` it is a
memory of files as they were.

A search is a sequence of loads, and `load_cases` says all that a load can do. What holds of the
resolver is therefore carried through a search by `search_induction`.
-/

namespace StyleCheck.EditorConfig

/-- What the directories say, each of them consulted afresh, up to and with the first root. -/
def chain (fs : FileSystem) : List Location → Except Failure (List (Location × Contents))
  | [] => .ok []
  | directory :: directories =>
    match consult fs directory with
    | .error failure => .error failure
    | .ok none => chain fs directories
    | .ok (some contents) =>
      if contents.root then .ok [(directory, contents)]
      else (chain fs directories).map ((directory, contents) :: ·)

namespace Resolver

variable {fs ideal : FileSystem} {resolver : Resolver} {directory other : Location}

/-! ## The memory -/

@[simp] theorem memory_empty : ({} : Resolver).memory directory = none := rfl

@[simp] theorem memory_note : (resolver.note fs directory).memory other = resolver.memory other :=
  rfl

theorem memory_remember {found : Option Contents} :
    (resolver.remember directory found).memory other =
      if other = directory then some found else resolver.memory other := by
  by_cases h : other = directory
  · simp [memory, remember, h]
  · have hne : (other == directory) = false := by simpa using h
    simp [memory, remember, List.lookup_cons, h, hne]

@[simp] theorem memory_remember_self {found : Option Contents} :
    (resolver.remember directory found).memory directory = some found := by
  simp [memory_remember]

/-! ## One load -/

/-- All that a load can do: answer from memory, fail and remember nothing, or remember what it
found. -/
theorem load_cases (fs : FileSystem) (resolver : Resolver) (directory : Location) :
    (∃ found, resolver.memory directory = some found ∧
      load fs resolver directory = (.ok found, resolver)) ∨
    (∃ failure, resolver.memory directory = none ∧ consult fs directory = .error failure ∧
      load fs resolver directory = (.error failure, resolver.note fs directory)) ∨
    (∃ found, resolver.memory directory = none ∧ consult fs directory = .ok found ∧
      load fs resolver directory =
        (.ok found, (resolver.note fs directory).remember directory found)) := by
  unfold load
  cases hr : resolver.memory directory with
  | some found => exact .inl ⟨found, rfl, rfl⟩
  | none =>
    cases hc : consult fs directory with
    | error failure => exact .inr (.inl ⟨failure, rfl, rfl, rfl⟩)
    | ok found => exact .inr (.inr ⟨found, rfl, rfl, rfl⟩)

theorem memory_load_of_ne (h : other ≠ directory) :
    (load fs resolver directory).2.memory other = resolver.memory other := by
  obtain ⟨found, -, hl⟩ | ⟨failure, -, -, hl⟩ | ⟨found, -, -, hl⟩ :=
    load_cases fs resolver directory
  · rw [hl]
  · rw [hl, memory_note]
  · rw [hl, memory_remember, if_neg h, memory_note]

theorem memory_load_of_some {found : Option Contents} (h : resolver.memory other = some found) :
    (load fs resolver directory).2.memory other = some found := by
  by_cases heq : other = directory
  · subst heq
    obtain ⟨old, hr, hl⟩ | ⟨failure, hr, -, -⟩ | ⟨new, hr, -, -⟩ := load_cases fs resolver other
    · rw [hl]
      exact h
    · rw [h] at hr
      cases hr
    · rw [h] at hr
      cases hr
  · rw [memory_load_of_ne heq]
    exact h

/-! ## Searches as sequences of loads -/

/-- What every load of a search keeps, the search keeps. -/
theorem search_induction {P : Resolver → Prop} {directories : List Location}
    (step : ∀ resolver, ∀ directory ∈ directories, P resolver → P (load fs resolver directory).2)
    (start : P resolver) : P (search fs directories resolver).2 := by
  induction directories generalizing resolver with
  | nil => exact start
  | cons directory directories ih =>
    have here := step resolver directory (by simp) start
    rcases hl : load fs resolver directory with ⟨answer, after⟩
    have rest : P after → P (search fs directories after).2 :=
      fun hafter => ih (fun r d hd => step r d (by simp [hd])) hafter
    rw [hl] at here
    match answer with
    | .error failure => simpa [search, hl] using here
    | .ok none => simpa [search, hl] using rest here
    | .ok (some contents) =>
      simp only [search, hl]
      split
      · exact here
      · split <;> simp_all

/-! ## Memories that reflect a file system -/

/-- Every entry is what consulting the directory would give. -/
def Reflects (ideal : FileSystem) (resolver : Resolver) : Prop :=
  ∀ directory found, resolver.memory directory = some found →
    consult ideal directory = .ok found

theorem reflects_empty : Reflects ideal {} := by
  intro directory found h
  simp at h

theorem Reflects.note (h : resolver.Reflects ideal) : (resolver.note fs directory).Reflects ideal :=
  h

theorem Reflects.remember {found : Option Contents} (h : resolver.Reflects ideal)
    (hc : consult ideal directory = .ok found) :
    (resolver.remember directory found).Reflects ideal := by
  intro other said hs
  rw [memory_remember] at hs
  split at hs
  · next heq =>
    cases hs
    rw [heq]
    exact hc
  · exact h other said hs

/-- Whether the answer comes from memory or from the files, it is what `ideal` says. -/
theorem load_of_reflects (h : resolver.Reflects ideal)
    (hsame : resolver.memory directory = none → consult fs directory = consult ideal directory) :
    (load fs resolver directory).1 = consult ideal directory ∧
      (load fs resolver directory).2.Reflects ideal := by
  obtain ⟨found, hr, hl⟩ | ⟨failure, hr, hc, hl⟩ | ⟨found, hr, hc, hl⟩ :=
    load_cases fs resolver directory
  · rw [hl]
    exact ⟨(h directory found hr).symm, h⟩
  · rw [hl, ← hsame hr, hc]
    exact ⟨rfl, h.note⟩
  · rw [hl, ← hsame hr, hc]
    exact ⟨rfl, h.note.remember (by rw [← hsame hr, hc])⟩

/-- **A search finds the chain of the file system that its memory reflects.** -/
theorem search_eq_chain {directories : List Location} (h : resolver.Reflects ideal)
    (hsame : ∀ directory ∈ directories, resolver.memory directory = none →
      consult fs directory = consult ideal directory) :
    (search fs directories resolver).1 = chain ideal directories ∧
      (search fs directories resolver).2.Reflects ideal := by
  induction directories generalizing resolver with
  | nil => exact ⟨rfl, h⟩
  | cons directory directories ih =>
    obtain ⟨hanswer, hreflects⟩ := load_of_reflects h (hsame directory (by simp))
    -- What the load adds to the memory only makes the condition on the rest weaker.
    have hrest : ∀ d ∈ directories, (load fs resolver directory).2.memory d = none →
        consult fs d = consult ideal d := by
      intro d hd hnone
      refine hsame d (by simp [hd]) ?_
      cases hr : resolver.memory d with
      | none => rfl
      | some found => simp [memory_load_of_some hr] at hnone
    obtain ⟨hchain, hafter⟩ := ih hreflects hrest
    rcases hl : load fs resolver directory with ⟨answer, after⟩
    simp only [hl] at hanswer hreflects hchain hafter
    match answer with
    | .error failure => simpa [search, hl, chain, ← hanswer] using hreflects
    | .ok none => simpa [search, hl, chain, ← hanswer] using ⟨hchain, hafter⟩
    | .ok (some contents) =>
      simp only [search, hl, chain, ← hanswer]
      split
      · exact ⟨rfl, hreflects⟩
      · rw [← hchain]
        rcases hs : search fs directories after with ⟨found, last⟩
        rw [hs] at hafter
        cases found with
        | error failure => exact ⟨rfl, hafter⟩
        | ok files => exact ⟨rfl, hafter⟩

/-! ## Properties and settings -/

/-- The properties of a file, found without a memory. -/
def freshProperties (fs : FileSystem) (path : Path) : Except Failure Properties :=
  match locate fs path with
  | .error failure => .error failure
  | .ok location =>
    (chain fs location.directories).map fun files => (assigned location files).withoutUnset

theorem properties_of_reflects (path : Path) (h : resolver.Reflects ideal)
    (hlocate : locate fs path = locate ideal path)
    (hsame : ∀ location, locate fs path = .ok location → ∀ directory ∈ location.directories,
      resolver.memory directory = none → consult fs directory = consult ideal directory) :
    (properties fs path resolver).1 = freshProperties ideal path ∧
      (properties fs path resolver).2.Reflects ideal := by
  unfold properties freshProperties
  rw [← hlocate]
  cases hl : locate fs path with
  | error failure => exact ⟨rfl, h⟩
  | ok location =>
    obtain ⟨hchain, hafter⟩ := search_eq_chain h (hsame location hl)
    simp only [← hchain]
    rcases hs : search fs location.directories resolver with ⟨found, after⟩
    rw [hs] at hafter
    cases found with
    | error failure => exact ⟨rfl, hafter⟩
    | ok files => exact ⟨rfl, hafter⟩

/-- The resolver after lookups of several paths. -/
def after (fs : FileSystem) (paths : List Path) : Resolver :=
  paths.foldl (fun resolver path => (properties fs path resolver).2) {}

theorem reflects_after (fs : FileSystem) (paths : List Path) : (after fs paths).Reflects fs := by
  have step : ∀ paths : List Path, ∀ resolver : Resolver, resolver.Reflects fs →
      (paths.foldl (fun r path => (properties fs path r).2) resolver).Reflects fs := by
    intro paths
    induction paths with
    | nil => intro resolver h; exact h
    | cons path paths ih =>
      intro resolver h
      exact ih _ (properties_of_reflects path h rfl fun _ _ _ _ _ => rfl).2
  exact step paths {} reflects_empty

theorem properties_after (fs : FileSystem) (paths : List Path) (path : Path) :
    (properties fs path (after fs paths)).1 = freshProperties fs path :=
  (properties_of_reflects path (reflects_after fs paths) rfl fun _ _ _ _ _ => rfl).1

theorem properties_empty (fs : FileSystem) (path : Path) :
    (properties fs path {}).1 = freshProperties fs path :=
  (properties_of_reflects path reflects_empty rfl fun _ _ _ _ _ => rfl).1

theorem settings_empty (fs : FileSystem) (path : Path) :
    (settings fs path {}).1 = (freshProperties fs path).map Properties.settings := by
  rw [← properties_empty]
  rfl

theorem settings_of_reflects (path : Path) (h : resolver.Reflects fs) :
    (settings fs path resolver).1 = (settings fs path {}).1 ∧
      (settings fs path resolver).2.Reflects fs := by
  obtain ⟨hfound, hafter⟩ := properties_of_reflects path h rfl fun _ _ _ _ _ => rfl
  refine ⟨?_, hafter⟩
  rw [settings_empty, ← hfound]
  rfl

end Resolver

end StyleCheck.EditorConfig
