import StyleCheck.EditorConfig.Resolver
import StyleCheck.Proofs.EditorConfig.Chain

/-!
# Searches that share a memory

A search that advances step by step between the steps of other searches. As long as the memory
reflects the file system, the search has a *result to come*: what it has found, followed by the
chain of the directories that are left. No step alters it (`result_step`), every step keeps the
memory reflecting the file system, and every step of a search that has not ended brings its end
nearer (`remaining_step`).
-/

namespace StyleCheck.EditorConfig

variable {fs : FileSystem} {resolver : Resolver}

namespace Search

/-- The result to come when the rest is searched without a memory. -/
def result (fs : FileSystem) : Search → Except Failure (List (Location × Contents))
  | asking found directory above | reading found directory above =>
    (chain fs (directory :: above)).map (found ++ ·)
  | storing found directory _ above => (chain fs (directory :: above)).map (found ++ ·)
  | ended result => result

/-- What the search is about to remember is what the directory says. -/
def Honest (fs : FileSystem) : Search → Prop
  | storing _ directory answer _ => consult fs directory = .ok answer
  | _ => True

/-- How many steps the search has left at most. -/
def remaining : Search → Nat
  | asking _ _ above => 3 * above.length + 3
  | reading _ _ above => 3 * above.length + 2
  | storing _ _ _ above => 3 * above.length + 1
  | ended _ => 0

theorem result_resume (found : List (Location × Contents)) (above : List Location) :
    (resume found above).result fs = (chain fs above).map (found ++ ·) := by
  cases above with
  | nil => simp [resume, result, chain, Except.map]
  | cons directory above => rfl

theorem result_proceed {found : List (Location × Contents)} {directory : Location}
    {above : List Location} {answer : Option Contents} (h : consult fs directory = .ok answer) :
    (proceed found directory above answer).result fs =
      (chain fs (directory :: above)).map (found ++ ·) := by
  cases answer with
  | none => simp [proceed, result_resume, chain, h]
  | some contents =>
    simp only [proceed, chain, h]
    split
    · rfl
    · rw [result_resume]
      cases chain fs above <;> simp [Except.map]

theorem honest_resume (found : List (Location × Contents)) (above : List Location) :
    (resume found above).Honest fs := by
  cases above <;> trivial

theorem honest_proceed (found : List (Location × Contents)) (directory : Location)
    (above : List Location) (answer : Option Contents) :
    (proceed found directory above answer).Honest fs := by
  cases answer with
  | none => exact honest_resume found above
  | some contents =>
    simp only [proceed]
    split
    · trivial
    · exact honest_resume _ above

theorem remaining_resume (found : List (Location × Contents)) (above : List Location) :
    (resume found above).remaining ≤ 3 * above.length := by
  cases above with
  | nil => simp [resume, remaining]
  | cons directory above => simp [resume, remaining]; omega

theorem remaining_proceed (found : List (Location × Contents)) (directory : Location)
    (above : List Location) (answer : Option Contents) :
    (proceed found directory above answer).remaining ≤ 3 * above.length := by
  cases answer with
  | none => exact remaining_resume found above
  | some contents =>
    simp only [proceed]
    split
    · simp [remaining]
    · exact remaining_resume _ above

/-- **A step keeps the result to come**, and the memory goes on reflecting the files. -/
theorem result_step (search : Search) (h : search.Honest fs) (hr : resolver.Reflects fs) :
    (search.step fs resolver).1.result fs = search.result fs ∧
      (search.step fs resolver).1.Honest fs ∧ (search.step fs resolver).2.Reflects fs := by
  cases search with
  | asking found directory above =>
    -- An answer from memory is right because the memory holds what the files say.
    cases hm : resolver.memory directory with
    | some answer =>
      simp only [step, hm]
      exact ⟨result_proceed (hr directory answer hm), honest_proceed .., hr⟩
    | none =>
      simp only [step, hm]
      exact ⟨rfl, trivial, hr⟩
  | reading found directory above =>
    cases hc : consult fs directory with
    | error failure =>
      simp only [step, hc]
      exact ⟨by simp [result, chain, hc, Except.map], trivial, hr.note⟩
    | ok answer =>
      simp only [step, hc]
      exact ⟨rfl, hc, hr.note⟩
  | storing found directory answer above =>
    exact ⟨result_proceed h, honest_proceed .., hr.remember h⟩
  | ended result => exact ⟨rfl, trivial, hr⟩

/-- A step of a search that has not ended leaves fewer steps to do. -/
theorem remaining_step (fs : FileSystem) (resolver : Resolver) (search : Search)
    (h : ∀ result, search ≠ .ended result) :
    (search.step fs resolver).1.remaining < search.remaining := by
  -- A directory takes three steps at most: it is asked for, read and stored.
  cases search with
  | asking found directory above =>
    cases hm : resolver.memory directory with
    | some answer =>
      have := remaining_proceed found directory above answer
      simp only [step, hm]
      show (proceed found directory above answer).remaining < 3 * above.length + 3
      omega
    | none =>
      simp only [step, hm]
      show 3 * above.length + 2 < 3 * above.length + 3
      omega
  | reading found directory above =>
    cases hc : consult fs directory with
    | error failure => simp [step, hc, remaining]
    | ok answer => simp [step, hc, remaining]
  | storing found directory answer above =>
    have := remaining_proceed found directory above answer
    show (proceed found directory above answer).remaining < 3 * above.length + 1
    omega
  | ended result => exact absurd rfl (h result)

end Search

end StyleCheck.EditorConfig
