import StyleCheck.Proofs.Regex.Prefix

/-!
# Expressions that avoid a symbol

An expression avoids a symbol if none of its sets has it. No word of the expression holds the symbol
then (`Avoids.mem_iff`), so it matches no text that does.
-/

namespace StyleCheck.Regex

variable {σ : Type} {c : σ} {text rest : List σ} {r : Regex σ} {items : List (Regex σ)}

/-- The symbol is in none of the sets of the expression. -/
def Avoids (c : σ) : Regex σ → Prop
  | .empty | .atEnd => True
  | .one set | .blocks set _ => set c = false
  | .seq a b | .alt a b => a.Avoids c ∧ b.Avoids c
  | .group a => a.Avoids c

theorem avoids_sequence (h : ∀ r ∈ items, r.Avoids c) : (sequence items).Avoids c := by
  induction items with
  | nil => trivial
  | cons r items ih =>
    obtain ⟨hr, hitems⟩ := List.forall_mem_cons.1 h
    exact ⟨hr, ih hitems⟩

theorem avoids_choice (h : ∀ r ∈ items, r.Avoids c) : (choice items).Avoids c := by
  induction items with
  | nil => rfl
  | cons r items ih =>
    obtain ⟨hr, hitems⟩ := List.forall_mem_cons.1 h
    cases items with
    | nil => exact hr
    | cons other items => exact ⟨hr, ih hitems⟩

/-- What such an expression takes off a text does not hold the symbol. -/
theorem Avoids.mem_iff (h : r.Avoids c) (hleaves : r.Leaves text rest) : c ∈ text ↔ c ∈ rest := by
  induction r generalizing text rest with
  | empty => rw [hleaves]
  | one set =>
    obtain ⟨d, hd, rfl⟩ := hleaves
    have hne : c ≠ d := by
      intro heq
      rw [heq] at h
      exact Bool.false_ne_true (h.symm.trans hd)
    simp [hne]
  | blocks set size =>
    obtain ⟨word, hword, -, rfl⟩ := hleaves
    have hnot : c ∉ word := by
      intro hc
      exact Bool.false_ne_true (h.symm.trans (hword c hc))
    simp [hnot]
  | atEnd => rw [hleaves.1, hleaves.2]
  | seq a b iha ihb =>
    obtain ⟨middle, ha, hb⟩ := hleaves
    rw [iha h.1 ha, ihb h.2 hb]
  | alt a b iha ihb =>
    cases hleaves with
    | inl ha => exact iha h.1 ha
    | inr hb => exact ihb h.2 hb
  | group a iha => exact iha h hleaves

theorem isSome_captures?_iff : (r.captures? text).isSome = true ↔ r.Leaves text [] := by
  rw [captures?_eq, Option.isSome_map, List.find?_isSome, ← exists_mem_ways_iff r 0]
  constructor
  · rintro ⟨⟨captures, rest⟩, hway, hempty⟩
    rw [← List.isEmpty_iff.1 hempty]
    exact ⟨captures, hway⟩
  · rintro ⟨captures, hway⟩
    exact ⟨(captures, []), hway, rfl⟩

theorem Avoids.captures?_eq_none (h : r.Avoids c) (hc : c ∈ text) : r.captures? text = none := by
  rw [← Option.not_isSome_iff_eq_none, isSome_captures?_iff]
  intro hleaves
  exact List.not_mem_nil ((h.mem_iff hleaves).1 hc)

end StyleCheck.Regex
