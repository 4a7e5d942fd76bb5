/-!
# Orders, sorted and numbered lists

Orders that compare a number first and a text where the numbers are equal (`RanksBy`), and what
sorting does to a part of a list: the part is sorted as it would be alone (`filter_mergeSort`).
-/

namespace StyleCheck

/-! ## Numbered lists

Lists whose items are numbered from left to right: the numbers ascend, and a map that does not look
at them is a map of the list. -/

theorem pairwise_zipIdx {α : Type} (list : List α) :
    list.zipIdx.Pairwise fun first second => first.2 < second.2 := by
  refine List.pairwise_map.1 ?_
  rw [List.zipIdx_map_snd]
  exact List.pairwise_lt_range'

theorem flatMap_zipIdx {α β : Type} (list : List α) (start : Nat) (f : α → List β) :
    (list.zipIdx start).flatMap (fun entry => f entry.1) = list.flatMap f := by
  rw [← List.flatMap_map, List.zipIdx_map_fst]

variable {α : Type}

/-! ## Ranks -/

/-- The order goes by a rank, and by a text where the ranks are equal. -/
structure RanksBy (le : α → α → Bool) (rank : α → Int) (text : α → String) : Prop where
  le_iff : ∀ {a b : α}, le a b = true ↔ rank a < rank b ∨ rank a = rank b ∧ text a ≤ text b

namespace RanksBy

variable {le : α → α → Bool} {rank : α → Int} {text : α → String} {a b c : α}

theorem refl (h : RanksBy le rank text) (a : α) : le a a = true :=
  h.le_iff.2 (.inr ⟨rfl, String.le_refl _⟩)

theorem trans (h : RanksBy le rank text) (hab : le a b = true) (hbc : le b c = true) :
    le a c = true := by
  rw [h.le_iff] at *
  rcases hab with hab | ⟨hab, htext⟩
  · exact .inl (by omega)
  rcases hbc with hbc | ⟨hbc, htext'⟩
  · exact .inl (by omega)
  · exact .inr ⟨hab.trans hbc, String.le_trans htext htext'⟩

theorem total (h : RanksBy le rank text) (a b : α) : le a b = true ∨ le b a = true := by
  rw [h.le_iff, h.le_iff]
  rcases Int.lt_trichotomy (rank a) (rank b) with hlt | heq | hgt
  · exact .inl (.inl hlt)
  · exact (String.le_total (text a) (text b)).imp (fun htext => .inr ⟨heq, htext⟩)
      fun htext => .inr ⟨heq.symm, htext⟩
  · exact .inr (.inl hgt)

theorem antisymm (h : RanksBy le rank text) (hab : le a b = true) (hba : le b a = true) :
    rank a = rank b ∧ text a = text b := by
  rw [h.le_iff] at hab hba
  rcases hab with hab | ⟨hrank, htext⟩
  · rcases hba with hba | ⟨hba, -⟩ <;> omega
  rcases hba with hba | ⟨-, htext'⟩
  · omega
  · exact ⟨hrank, String.le_antisymm htext htext'⟩

end RanksBy

/-! ## Sorting a part of a list -/

section

variable (le : α → α → Bool) (trans : ∀ a b c, le a b = true → le b c = true → le a c = true)
  (total : ∀ a b, (le a b || le b a) = true)

include trans total

/-- A sorted list is cut where an element belongs, before all that may come behind it. -/
theorem mergeSort_cons_eq (a : α) (l : List α) :
    (a :: l).mergeSort le =
        (l.mergeSort le).filter (fun b => !le a b) ++ a :: (l.mergeSort le).filter (le a) ∧
      l.mergeSort le =
        (l.mergeSort le).filter (fun b => !le a b) ++ (l.mergeSort le).filter (le a) := by
  obtain ⟨before, after, hall, hrest, hbefore⟩ := List.mergeSort_cons trans total a l
  have hsorted := List.pairwise_mergeSort trans total (a :: l)
  rw [hall] at hsorted
  have hafter : ∀ b ∈ after, le a b = true :=
    fun b hb => List.rel_of_pairwise_cons (List.pairwise_append.1 hsorted).2.1 hb
  have hfront : (l.mergeSort le).filter (fun b => !le a b) = before := by
    rw [hrest, List.filter_append, List.filter_eq_self.2 hbefore,
      List.filter_eq_nil_iff.2 fun b hb => by simp [hafter b hb], List.append_nil]
  have hback : (l.mergeSort le).filter (le a) = after := by
    rw [hrest, List.filter_append, List.filter_eq_self.2 hafter,
      List.filter_eq_nil_iff.2 fun b hb => by simpa using hbefore b hb, List.nil_append]
  rw [hfront, hback]
  exact ⟨hall, hrest⟩

/-- The part of a sorted list is the part sorted alone. -/
theorem filter_mergeSort (p : α → Bool) (l : List α) :
    (l.mergeSort le).filter p = (l.filter p).mergeSort le := by
  induction l with
  | nil => simp
  | cons a l ih =>
    obtain ⟨hcons, hsplit⟩ := mergeSort_cons_eq le trans total a l
    cases hp : p a with
    | false =>
      have hdrop : ((a :: l).mergeSort le).filter p = (l.mergeSort le).filter p := by
        rw [hcons, List.filter_append, List.filter_cons_of_neg (by simp [hp]),
          ← List.filter_append, ← hsplit]
      rw [hdrop, ih, List.filter_cons_of_neg (by simp [hp])]
    | true =>
      have hcomm (q : α → Bool) : ((l.mergeSort le).filter q).filter p =
          ((l.mergeSort le).filter p).filter q := by
        simp only [List.filter_filter, Bool.and_comm]
      rw [hcons, List.filter_append, List.filter_cons_of_pos hp, hcomm, hcomm, ih,
        List.filter_cons_of_pos hp, (mergeSort_cons_eq le trans total a (l.filter p)).1]

end

end StyleCheck
