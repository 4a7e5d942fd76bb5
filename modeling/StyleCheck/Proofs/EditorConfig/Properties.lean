import StyleCheck.EditorConfig.File
import Mathlib.Data.List.Induction

/-!
# Properties as a map that keeps its order

Setting a key changes the value of that key only (`value?_set`), and a new key goes to the end
(`keys_set`). For a whole list of assignments this means that the value of a key is the one that
was assigned last (`value?_setAll_eq_some`), while the place of a key is that of its first
assignment (`pairwise_setAll`).
-/

namespace StyleCheck.EditorConfig.Properties

variable {properties more : Properties} {key other value : String}

/-- The keys in their order. -/
def keys (properties : Properties) : List String := properties.map Prod.fst

@[simp] theorem keys_nil : keys [] = [] := rfl

@[simp] theorem keys_cons (entry : String × String) (rest : Properties) :
    keys (entry :: rest) = entry.1 :: keys rest := rfl

@[simp] theorem keys_append (first second : Properties) :
    keys (first ++ second) = keys first ++ keys second := by
  simp [keys]

@[simp] theorem value?_nil : value? [] key = none := rfl

theorem value?_cons (entry : String × String) (rest : Properties) :
    value? (entry :: rest) key = if key = entry.1 then some entry.2 else rest.value? key := by
  obtain ⟨k, v⟩ := entry
  by_cases h : key = k
  · simp [value?, h]
  · have hne : (key == k) = false := by simpa using h
    simp only [value?, List.lookup_cons, hne, if_neg h]

/-! ## Setting one key -/

theorem value?_set (properties : Properties) (key value other : String) :
    (properties.set key value).value? other =
      if other = key then some value else properties.value? other := by
  induction properties with
  | nil => simp [set, value?_cons]
  | cons entry rest ih =>
    obtain ⟨k, v⟩ := entry
    by_cases hk : k = key
    · subst hk
      simp only [set, if_pos, value?_cons]
      split <;> rfl
    · simp only [set, if_neg hk, value?_cons, ih]
      by_cases h : other = k
      · have hne : other ≠ key := h ▸ hk
        simp [h, hk]
      · simp [h]

theorem keys_set (properties : Properties) (key value : String) :
    (properties.set key value).keys =
      if key ∈ properties.keys then properties.keys else properties.keys ++ [key] := by
  induction properties with
  | nil => simp [set]
  | cons entry rest ih =>
    obtain ⟨k, v⟩ := entry
    by_cases hk : k = key
    · simp [set, hk]
    · have hk' : key ≠ k := Ne.symm hk
      simp only [set, if_neg hk, keys_cons, List.mem_cons, hk', false_or, ih]
      split <;> simp

theorem nodup_set (h : properties.keys.Nodup) : (properties.set key value).keys.Nodup := by
  rw [keys_set]
  split
  · exact h
  next hnew =>
    refine List.nodup_append.2 ⟨h, by simp, ?_⟩
    intro a ha b hb
    rw [List.mem_singleton.1 hb]
    rintro rfl
    exact hnew ha

/-! ## Values by key -/

theorem value?_eq_none_iff : properties.value? key = none ↔ key ∉ properties.keys := by
  induction properties with
  | nil => simp
  | cons entry rest ih =>
    rw [value?_cons, keys_cons, List.mem_cons]
    by_cases h : key = entry.1 <;> simp [h, ih]

/-- With distinct keys, taking properties away by their values is taking values away. -/
theorem value?_filter (keep : String → Bool) (h : properties.keys.Nodup) :
    value? (properties.filter fun entry => keep entry.2) key =
      (properties.value? key).filter keep := by
  induction properties with
  | nil => rfl
  | cons entry rest ih =>
    obtain ⟨hk, hrest⟩ := List.nodup_cons.1 h
    have ih := ih hrest
    by_cases heq : key = entry.1
    · subst heq
      have hnone : value? rest entry.1 = none := value?_eq_none_iff.2 hk
      cases hkeep : keep entry.2 with
      | true => simp [hkeep, value?_cons, Option.filter]
      | false => simp [hkeep, value?_cons, ih, hnone, Option.filter]
    · cases hkeep : keep entry.2 with
      | true => simp [hkeep, value?_cons, heq, ih]
      | false => simp [hkeep, value?_cons, heq, ih]

theorem value?_withoutUnset (h : properties.keys.Nodup) :
    properties.withoutUnset.value? key =
      (properties.value? key).filter fun value => value != unsetValue :=
  value?_filter (fun value => value != unsetValue) h

/-! ## Setting several keys -/

theorem setAll_append (properties more : Properties) (entry : String × String) :
    properties.setAll (more ++ [entry]) = (properties.setAll more).set entry.1 entry.2 := by
  simp [setAll]

theorem setAll_setAll (properties first second : Properties) :
    (properties.setAll first).setAll second = properties.setAll (first ++ second) := by
  simp [setAll]

theorem nodup_setAll (h : properties.keys.Nodup) : (properties.setAll more).keys.Nodup := by
  induction more using List.reverseRecOn with
  | nil => exact h
  | append_singleton more entry ih =>
    rw [setAll_append]
    exact nodup_set ih

theorem mem_keys_setAll_nil : key ∈ (setAll [] more).keys ↔ key ∈ more.keys := by
  induction more using List.reverseRecOn generalizing key with
  | nil => rfl
  | append_singleton more entry ih =>
    rw [setAll_append, keys_set]
    by_cases h : entry.1 ∈ (setAll [] more).keys
    · rw [if_pos h, ih, keys_append, List.mem_append]
      constructor
      · exact .inl
      · rintro (hk | hk)
        · exact hk
        · rw [List.mem_singleton.1 hk]
          exact ih.1 h
    · rw [if_neg h, List.mem_append, ih, keys_append, List.mem_append]
      rfl

/-- **The last assignment wins.** -/
theorem value?_setAll_eq_some :
    (setAll [] more).value? key = some value ↔
      ∃ before after, more = before ++ (key, value) :: after ∧ ∀ entry ∈ after, entry.1 ≠ key := by
  induction more using List.reverseRecOn with
  | nil => simp [setAll, value?]
  | append_singleton more entry ih =>
    obtain ⟨k, v⟩ := entry
    rw [setAll_append, value?_set]
    by_cases hk : key = k
    · subst hk
      rw [if_pos rfl, Option.some.injEq]
      constructor
      · rintro rfl
        exact ⟨more, [], rfl, by simp⟩
      · rintro ⟨before, after, heq, hlast⟩
        -- The assignment at the end is one of `key`, so nothing can come after the last one.
        cases after using List.reverseRecOn with
        | nil => simp_all
        | append_singleton after last _ =>
          rw [← List.cons_append, ← List.append_assoc] at heq
          have hend : (key, v) = last := List.singleton_inj.1 (List.append_inj' heq rfl).2
          exact absurd (by rw [← hend]) (hlast last (by simp))
    · rw [if_neg hk, ih]
      constructor
      · rintro ⟨before, after, rfl, hlast⟩
        refine ⟨before, after ++ [(k, v)], by simp, ?_⟩
        intro entry he
        rcases List.mem_append.1 he with he | he
        · exact hlast entry he
        · rw [List.mem_singleton.1 he]
          exact Ne.symm hk
      · rintro ⟨before, after, heq, hlast⟩
        cases after using List.reverseRecOn with
        | nil =>
          have := (List.append_inj' heq rfl).2
          simp_all
        | append_singleton after last _ =>
          rw [← List.cons_append, ← List.append_assoc] at heq
          obtain ⟨hmore, -⟩ := List.append_inj' heq rfl
          exact ⟨before, after, hmore, fun entry he => hlast entry (by simp [he])⟩

/-- **The first assignment gives the place.** Of two keys, the one that stands first was assigned
before the other one was assigned at all. -/
theorem pairwise_setAll (more : Properties) :
    (setAll [] more).keys.Pairwise fun first second =>
      ∃ before value after, more = before ++ (first, value) :: after ∧
        ∀ entry ∈ before ++ [(first, value)], entry.1 ≠ second := by
  induction more using List.reverseRecOn with
  | nil => simp [setAll]
  | append_singleton more entry ih =>
    obtain ⟨k, v⟩ := entry
    have hkept : (setAll [] more).keys.Pairwise fun first second =>
        ∃ before value after, more ++ [(k, v)] = before ++ (first, value) :: after ∧
          ∀ entry ∈ before ++ [(first, value)], entry.1 ≠ second := by
      refine ih.imp fun {first second} h => ?_
      obtain ⟨before, value, after, rfl, hne⟩ := h
      exact ⟨before, value, after ++ [(k, v)], by simp, hne⟩
    rw [setAll_append, keys_set]
    split
    · exact hkept
    next hnew =>
      -- A new key goes to the end, and no entry before it has the key.
      refine List.pairwise_append.2 ⟨hkept, by simp, ?_⟩
      intro first hfirst second hsecond
      rw [List.mem_singleton.1 hsecond]
      obtain ⟨⟨k', v'⟩, hmem, rfl⟩ := List.mem_map.1 (mem_keys_setAll_nil.1 hfirst)
      obtain ⟨before, after, rfl⟩ := List.append_of_mem hmem
      refine ⟨before, v', after ++ [(k, v)], by simp, fun entry he => ?_⟩
      rintro rfl
      refine hnew (mem_keys_setAll_nil.2 (List.mem_map.2 ⟨entry, ?_, rfl⟩))
      rcases List.mem_append.1 he with he | he
      · exact List.mem_append.2 (.inl he)
      · rw [List.mem_singleton.1 he]
        simp

end StyleCheck.EditorConfig.Properties
