import StyleCheck.Proofs.Regex.Ways

/-!
# Matching a start of a text

`r.Leaves text rest` says, by cases on the expression, that one of its words can be taken off a text
with the rest left. Unlike the ways of an expression it knows nothing of an order or of captures,
so it splits along the expression.

**Theorem (`isPrefixMatch_iff`).** An expression matches a start of a text exactly if it can leave
some rest of it.

A repetition of a symbol in front of another expression takes whole blocks off the run of the symbol
(`isPrefixMatch_blocks_run`). If the other expression never starts with that symbol, the repetition
must take the whole run (`isPrefixMatch_many_run`).
-/

namespace StyleCheck.Regex

variable {σ : Type} {set : σ → Bool} {size n : Nat} {c : σ} {text rest : List σ}
  {a b r : Regex σ}

/-! ## What an expression leaves -/

/-- A word of the expression can be taken off the text, with the rest left. -/
def Leaves : Regex σ → List σ → List σ → Prop
  | .empty, text, rest => rest = text
  | .one set, text, rest => ∃ c, set c = true ∧ text = c :: rest
  | .blocks set size, text, rest =>
    ∃ word, (∀ c ∈ word, set c = true) ∧ size ∣ word.length ∧ text = word ++ rest
  | .atEnd, text, rest => text = [] ∧ rest = []
  | .seq a b, text, rest => ∃ middle, a.Leaves text middle ∧ b.Leaves middle rest
  | .alt a b, text, rest => a.Leaves text rest ∨ b.Leaves text rest
  | .group a, text, rest => a.Leaves text rest

theorem mem_afterBlocks_iff :
    rest ∈ afterBlocks set size text ↔ (blocks set size).Leaves text rest := by
  unfold afterBlocks
  rw [List.mem_map]
  constructor
  · rintro ⟨n, hn, rfl⟩
    rw [List.mem_reverse, List.mem_range, Nat.lt_succ_iff] at hn
    have hle : n * size ≤ (text.takeWhile set).length :=
      (Nat.mul_le_mul_right size hn).trans (Nat.div_mul_le_self _ _)
    -- Whole blocks lie within the run of the set, so they are taken off the text itself.
    have htake : (text.takeWhile set).take (n * size) = text.take (n * size) := by
      rw [← List.take_append_of_le_length hle, List.takeWhile_append_dropWhile]
    refine ⟨(text.takeWhile set).take (n * size), fun c hc => ?_, ?_, ?_⟩
    · exact List.all_eq_true.1 List.all_takeWhile c (List.mem_of_mem_take hc)
    · rw [List.length_take_of_le hle]
      exact Nat.dvd_mul_left size n
    · rw [htake, List.take_append_drop]
  · rintro ⟨word, hword, hsize, rfl⟩
    have hle : word.length ≤ ((word ++ rest).takeWhile set).length := by
      rw [List.takeWhile_append_of_pos hword, List.length_append]
      exact Nat.le_add_right _ _
    refine ⟨word.length / size, ?_, ?_⟩
    · rw [List.mem_reverse, List.mem_range, Nat.lt_succ_iff]
      exact Nat.div_le_div_right hle
    · rw [Nat.div_mul_cancel hsize, List.drop_left]

/-- The ways of an expression leave what it can leave. -/
theorem exists_mem_ways_iff (r : Regex σ) (group : Nat) (text rest : List σ) :
    (∃ captures, (captures, rest) ∈ r.ways group text) ↔ r.Leaves text rest := by
  induction r generalizing group text rest with
  | empty => simp [ways, Leaves]
  | one set =>
    cases text with
    | nil => simp [ways, Leaves]
    | cons c cs =>
      cases hc : set c with
      | true =>
        constructor
        · rintro ⟨captures, hway⟩
          rw [ways, if_pos hc] at hway
          cases List.mem_singleton.1 hway
          exact ⟨c, hc, rfl⟩
        · rintro ⟨_, _, ⟨⟩⟩
          exact ⟨[], by simp [ways, hc]⟩
      | false => simp [ways, Leaves, hc]
  | blocks set size => simp [ways, mem_afterBlocks_iff]
  | atEnd => cases text <;> simp [ways, Leaves]
  | seq a b iha ihb =>
    simp only [ways, List.mem_flatMap, List.mem_map]
    constructor
    · rintro ⟨captures, first, hfirst, second, hsecond, heq⟩
      cases heq
      exact ⟨first.2, (iha _ _ _).1 ⟨_, hfirst⟩, (ihb _ _ _).1 ⟨_, hsecond⟩⟩
    · rintro ⟨middle, ha, hb⟩
      obtain ⟨first, hfirst⟩ := (iha group _ _).2 ha
      obtain ⟨second, hsecond⟩ := (ihb (group + a.groups) _ _).2 hb
      exact ⟨_, _, hfirst, _, hsecond, rfl⟩
  | alt a b iha ihb => simp only [ways, List.mem_append, exists_or, iha, ihb, Leaves]
  | group a iha =>
    simp only [ways, List.mem_map, Leaves, ← iha (group + 1)]
    constructor
    · rintro ⟨captures, way, hway, heq⟩
      cases heq
      exact ⟨_, hway⟩
    · rintro ⟨captures, hway⟩
      exact ⟨_, _, hway, rfl⟩

theorem isSome_carryOn {α : Type} (found : α) (ways : List (Found σ (List σ))) :
    (carryOn (fun _ => some ([], found)) ways).isSome = true ↔ ∃ way, way ∈ ways := by
  cases ways with
  | nil => simp [carryOn]
  | cons way ways => simp [carryOn_cons]

/-- **An expression matches a start of a text** exactly if it can leave some rest of the text. -/
theorem isPrefixMatch_iff (r : Regex σ) (text : List σ) :
    r.isPrefixMatch text = true ↔ ∃ rest, r.Leaves text rest := by
  have hanywhere : (text.foldr (fun _ table => some ([], ()) :: table)
      [some (([], ()) : Found σ Unit)]) = text.tails.map fun _ => some ([], ()) := by
    clear r
    induction text with
    | nil => rfl
    | cons c cs ih =>
      rw [List.foldr_cons, ih]
      rfl
  unfold isPrefixMatch
  simp only [hanywhere, table_tails, Table.head_tails]
  rw [isSome_carryOn, Prod.exists, exists_comm]
  simp only [exists_mem_ways_iff]

/-! ## Single expressions -/

theorem isPrefixMatch_one :
    (one set).isPrefixMatch text = true ↔ ∃ c ∈ text.head?, set c = true := by
  rw [isPrefixMatch_iff]
  cases text with
  | nil => simp [Leaves]
  | cons c cs => simp [Leaves]

theorem isPrefixMatch_atEnd : (atEnd : Regex σ).isPrefixMatch text = true ↔ text = [] := by
  simp [isPrefixMatch_iff, Leaves]

theorem isPrefixMatch_alt :
    (alt a b).isPrefixMatch text = true ↔
      a.isPrefixMatch text = true ∨ b.isPrefixMatch text = true := by
  simp only [isPrefixMatch_iff, Leaves, exists_or]

/-! ## Expressions in front of others -/

theorem isPrefixMatch_seq :
    (seq a b).isPrefixMatch text = true ↔
      ∃ middle, a.Leaves text middle ∧ b.isPrefixMatch middle = true := by
  simp only [isPrefixMatch_iff, Leaves]
  constructor
  · rintro ⟨rest, middle, ha, hb⟩
    exact ⟨middle, ha, rest, hb⟩
  · rintro ⟨middle, ha, rest, hb⟩
    exact ⟨rest, middle, ha, hb⟩

theorem isPrefixMatch_seq_seq {first : Regex σ} :
    (seq (seq first a) b).isPrefixMatch text = true ↔
      (seq first (seq a b)).isPrefixMatch text = true := by
  simp only [isPrefixMatch_seq, Leaves]
  constructor
  · rintro ⟨rest, ⟨middle, hfirst, ha⟩, hb⟩
    exact ⟨middle, hfirst, rest, ha, hb⟩
  · rintro ⟨middle, hfirst, rest, ha, hb⟩
    exact ⟨rest, ⟨middle, hfirst, ha⟩, hb⟩

theorem isPrefixMatch_alt_seq {other : Regex σ} :
    (seq (alt a other) b).isPrefixMatch text = true ↔
      (seq a b).isPrefixMatch text = true ∨ (seq other b).isPrefixMatch text = true := by
  simp only [isPrefixMatch_seq, Leaves, or_and_right, exists_or]

theorem isPrefixMatch_optional_seq :
    (seq (optional a) b).isPrefixMatch text = true ↔
      (seq a b).isPrefixMatch text = true ∨ b.isPrefixMatch text = true := by
  rw [optional, isPrefixMatch_alt_seq]
  simp [isPrefixMatch_seq, Leaves]

theorem isPrefixMatch_symbol_seq [BEq σ] [LawfulBEq σ] :
    (seq (symbol c) b).isPrefixMatch text = true ↔
      ∃ rest, text = c :: rest ∧ b.isPrefixMatch rest = true := by
  rw [isPrefixMatch_seq]
  constructor
  · rintro ⟨rest, ⟨d, hd, rfl⟩, hb⟩
    rw [beq_iff_eq.1 hd]
    exact ⟨rest, rfl, hb⟩
  · rintro ⟨rest, rfl, hb⟩
    exact ⟨rest, ⟨c, beq_self_eq_true c, rfl⟩, hb⟩

/-! ## Runs of a symbol -/

section Run

variable [BEq σ] [LawfulBEq σ]

/-- Whole blocks are taken off a run, and some symbols of it may be left. -/
theorem isPrefixMatch_blocks_run (hrest : rest.head? ≠ some c) :
    (seq (blocks (· == c) size) b).isPrefixMatch (List.replicate n c ++ rest) = true ↔
      ∃ kept ≤ n, size ∣ n - kept ∧ b.isPrefixMatch (List.replicate kept c ++ rest) = true := by
  rw [isPrefixMatch_seq]
  constructor
  · rintro ⟨middle, ⟨word, hword, hsize, heq⟩, hb⟩
    rcases List.append_eq_append_iff.1 heq with ⟨more, rfl, rfl⟩ | ⟨kept, hrun, rfl⟩
    · -- Nothing behind the run is taken, because it does not start with the symbol.
      cases more with
      | nil => exact ⟨0, Nat.zero_le n, by simpa using hsize, hb⟩
      | cons d more =>
        have hd : d = c := beq_iff_eq.1 (hword d (by simp))
        exact absurd (congrArg some hd) hrest
    · obtain ⟨hlength, -, hkept⟩ := List.replicate_eq_append_iff.1 hrun
      have htaken : n - kept.length = word.length := by omega
      exact ⟨kept.length, by omega, htaken ▸ hsize, hkept ▸ hb⟩
  · rintro ⟨kept, hle, hsize, hb⟩
    refine ⟨_, ⟨List.replicate (n - kept) c, fun d hd => ?_, by simpa using hsize, ?_⟩, hb⟩
    · exact beq_iff_eq.2 (List.eq_of_mem_replicate hd)
    · rw [← List.append_assoc, List.replicate_append_replicate, Nat.sub_add_cancel hle]

/-- The whole run is taken if the other expression does not start with its symbol. -/
theorem isPrefixMatch_many_run (hrest : rest.head? ≠ some c)
    (hb : ∀ text, ¬ b.isPrefixMatch (c :: text) = true) :
    (seq (many (· == c)) b).isPrefixMatch (List.replicate n c ++ rest) = true ↔
      b.isPrefixMatch rest = true := by
  rw [many, isPrefixMatch_blocks_run hrest]
  constructor
  · rintro ⟨kept, -, -, hmatch⟩
    cases kept with
    | zero => exact hmatch
    | succ kept => exact absurd hmatch (hb _)
  · intro hmatch
    exact ⟨0, Nat.zero_le n, Nat.one_dvd _, hmatch⟩

theorem isPrefixMatch_symbol_run (hrest : rest.head? ≠ some c) :
    (seq (symbol c) b).isPrefixMatch (List.replicate n c ++ rest) = true ↔
      1 ≤ n ∧ b.isPrefixMatch (List.replicate (n - 1) c ++ rest) = true := by
  rw [isPrefixMatch_symbol_seq]
  cases n with
  | zero =>
    refine iff_of_false ?_ (by simp)
    rintro ⟨more, rfl, -⟩
    exact hrest rfl
  | succ n => simp [List.replicate_succ]

/-- Where a symbol is wanted, the run must not be empty. -/
theorem isPrefixMatch_many1_run (hrest : rest.head? ≠ some c)
    (hb : ∀ text, ¬ b.isPrefixMatch (c :: text) = true) :
    (seq (many1 (· == c)) b).isPrefixMatch (List.replicate n c ++ rest) = true ↔
      1 ≤ n ∧ b.isPrefixMatch rest = true := by
  rw [many1, isPrefixMatch_seq_seq, ← symbol, isPrefixMatch_symbol_run hrest,
    isPrefixMatch_many_run hrest hb]

end Run

end StyleCheck.Regex
