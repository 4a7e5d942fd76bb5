import StyleCheck.Proofs.EditorConfig.Chain
import StyleCheck.Proofs.EditorConfig.Properties

/-!
# What files say is well formed

The properties of a section have distinct keys, because every assignment goes through
`Properties.set`. Reading adds line after line, so it is enough that one line keeps this
(`distinctKeys_add`).
-/

namespace StyleCheck.EditorConfig

namespace Contents

/-- No section holds two values for a key. -/
def DistinctKeys (contents : Contents) : Prop :=
  ∀ sec ∈ contents.sections, sec.properties.keys.Nodup

theorem nodup_setInLast {key value : String} {sections : List Section}
    (h : ∀ sec ∈ sections, sec.properties.keys.Nodup) :
    ∀ sec ∈ setInLast key value sections, sec.properties.keys.Nodup := by
  fun_induction setInLast key value sections with
  | case1 => exact h
  | case2 last =>
    intro sec hsec
    rw [List.mem_singleton.1 hsec]
    exact Properties.nodup_set (h last (by simp))
  | case3 first others _ ih =>
    intro sec hsec
    rcases List.mem_cons.1 hsec with rfl | hsec
    · exact h _ (by simp)
    · exact ih (fun s hs => h s (by simp [hs])) sec hsec

theorem distinctKeys_add {contents : Contents} (h : contents.DistinctKeys) (line : Line) :
    (contents.add line).DistinctKeys := by
  cases line with
  | nothing => exact h
  | header pattern =>
    intro sec hsec
    rcases List.mem_append.1 hsec with hsec | hsec
    · exact h sec hsec
    · rw [List.mem_singleton.1 hsec]
      exact List.nodup_nil
  | assignment key value =>
    simp only [add]
    split
    · split
      · exact h
      · exact h
    · exact nodup_setInLast h

theorem distinctKeys_addLines {contents result : Contents} {number : Nat}
    {lines : List (List Char)} (h : contents.DistinctKeys)
    (hresult : addLines contents number lines = .ok result) : result.DistinctKeys := by
  induction lines generalizing contents number with
  | nil =>
    cases hresult
    exact h
  | cons line lines ih =>
    unfold addLines at hresult
    split at hresult
    · cases hresult
    · exact ih (distinctKeys_add h _) hresult

theorem distinctKeys_parse {text : List Char} {contents : Contents}
    (h : parse text = .ok contents) : contents.DistinctKeys :=
  distinctKeys_addLines (by intro sec hsec; cases hsec) h

end Contents

/-! ## Directories that say something -/

/-- The directory has a file, and this is what its text says. -/
def Holds (fs : FileSystem) (directory : Location) (contents : Contents) : Prop :=
  fs.isFile (fileIn directory) = true ∧
    ∃ text, fs.readText (fileIn directory) = .ok text ∧
      Contents.parse text.toList = .ok contents

theorem consult_eq_some_iff {fs : FileSystem} {directory : Location} {contents : Contents} :
    consult fs directory = .ok (some contents) ↔ Holds fs directory contents := by
  unfold consult Reading.of? Holds Reading.contents
  by_cases hfile : fs.isFile (fileIn directory) = true
  · cases htext : fs.readText (fileIn directory) with
    | error cause => simp [hfile, Except.map]
    | ok text =>
      cases hparse : Contents.parse text.toList with
      | error error => simp [hfile, hparse, Except.map]
      | ok parsed => simp [hfile, hparse, Except.map]
  · simp [hfile]

theorem Holds.distinctKeys {fs : FileSystem} {directory : Location} {contents : Contents}
    (h : Holds fs directory contents) : contents.DistinctKeys := by
  obtain ⟨-, text, -, hparse⟩ := h
  exact Contents.distinctKeys_parse hparse

end StyleCheck.EditorConfig
