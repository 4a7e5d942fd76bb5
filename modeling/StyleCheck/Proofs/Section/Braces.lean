import StyleCheck.Section.Pattern

/-!
# Brace groups and their parts

A text is whole when it does not end inside an escape. `Closes allowed depth text` says that a text
closes `depth` groups that are open before it and every group that it opens itself, and that its
characters outside of groups are allowed ones. A body is balanced when it closes nothing but its
own groups; a part is a balanced text without a comma outside of groups.

**Theorem (`braceBody?_eq_some_iff`).** The body that is cut off after an opening brace is the
balanced text before a closing brace.

**Theorem (`parts_eq_iff`).** The parts of a balanced body are the only parts that give the body
back when they are joined by commas.
-/

namespace StyleCheck.Section

variable {c : Char} {allowed more : Char → Prop} {depth : Nat}
  {text rest body after first part : List Char} {others list : List (List Char)}

/-! ## Escapes -/

/-- The text does not end inside an escape. -/
inductive Whole : List Char → Prop
  | nil : Whole []
  | escaped (c : Char) {rest : List Char} : Whole rest → Whole ('\\' :: c :: rest)
  | plain {c : Char} {rest : List Char} : c ≠ '\\' → Whole rest → Whole (c :: rest)

theorem Whole.append (h : Whole text) (h' : Whole rest) : Whole (text ++ rest) := by
  induction h with
  | nil => exact h'
  | escaped c _ ih => exact .escaped c ih
  | plain hc _ ih => exact .plain hc ih

theorem whole_of_not_mem (h : '\\' ∉ text) : Whole text := by
  induction text with
  | nil => exact .nil
  | cons c text ih =>
    rw [List.mem_cons, not_or] at h
    exact .plain (Ne.symm h.1) (ih h.2)

/-! ## Groups -/

/-- The text closes `depth` groups that are open before it and all those that it opens, and
outside of groups it has allowed characters only. An escaped character stands apart. -/
inductive Closes (allowed : Char → Prop) : Nat → List Char → Prop
  | nil : Closes allowed 0 []
  | escaped {depth : Nat} (c : Char) {rest : List Char} :
    Closes allowed depth rest → Closes allowed depth ('\\' :: c :: rest)
  | opened {depth : Nat} {rest : List Char} :
    Closes allowed (depth + 1) rest → Closes allowed depth ('{' :: rest)
  | closed {depth : Nat} {rest : List Char} :
    Closes allowed depth rest → Closes allowed (depth + 1) ('}' :: rest)
  | plain {depth : Nat} {c : Char} {rest : List Char} :
    c ≠ '\\' → c ≠ '{' → c ≠ '}' → (depth = 0 → allowed c) →
    Closes allowed depth rest → Closes allowed depth (c :: rest)

/-- The braces of the text are balanced. -/
def Balanced (text : List Char) : Prop := Closes (fun _ => True) 0 text

/-- The braces of the text are balanced, and no comma stands outside of groups. -/
def IsPart (text : List Char) : Prop := Closes (· ≠ ',') 0 text

theorem Closes.whole (h : Closes allowed depth text) : Whole text := by
  induction h with
  | nil => exact .nil
  | escaped c _ ih => exact .escaped c ih
  | opened _ ih => exact .plain (by decide) ih
  | closed _ ih => exact .plain (by decide) ih
  | plain hc _ _ _ _ ih => exact .plain hc ih

theorem Closes.mono (h : Closes allowed depth text) (hmore : ∀ c, allowed c → more c) :
    Closes more depth text := by
  induction h with
  | nil => exact .nil
  | escaped c _ ih => exact .escaped c ih
  | opened _ ih => exact .opened ih
  | closed _ ih => exact .closed ih
  | plain hs ho hc hallowed _ ih => exact .plain hs ho hc (fun hd => hmore _ (hallowed hd)) ih

theorem Closes.append (h : Closes allowed depth text) (h' : Closes allowed 0 rest) :
    Closes allowed depth (text ++ rest) := by
  induction h with
  | nil => exact h'
  | escaped c _ ih => exact .escaped c ih
  | opened _ ih => exact .opened ih
  | closed _ ih => exact .closed ih
  | plain hs ho hc hallowed _ ih => exact .plain hs ho hc hallowed ih

theorem IsPart.balanced (h : IsPart text) : Balanced text := Closes.mono h fun _ _ => trivial

/-! ## The body of a group -/

theorem braceBody?_plain (hs : c ≠ '\\') (ho : c ≠ '{') (hc : c ≠ '}') :
    braceBody? depth (c :: rest) =
      (braceBody? depth rest).map fun (body, after) => (c :: body, after) := by
  rw [braceBody?.eq_def]
  split <;> simp_all

theorem Closes.braceBody? (h : Closes allowed depth body) (after : List Char) :
    braceBody? depth (body ++ '}' :: after) = some (body, after) := by
  induction h with
  | nil => rfl
  | escaped c _ ih => simp [Section.braceBody?, ih]
  | opened _ ih => simp [Section.braceBody?, ih]
  | closed _ ih => simp [Section.braceBody?, ih]
  | plain hs ho hc _ _ ih => simp [braceBody?_plain hs ho hc, ih]

/-- A body with characters put in front of it is cut off where the body itself is. -/
theorem eq_of_map_front {found : Option (List Char × List Char)} (front : List Char → List Char)
    (h : (found.map fun (body, after) => (front body, after)) = some (body, after)) :
    ∃ inner, found = some (inner, after) ∧ body = front inner := by
  obtain ⟨⟨inner, behind⟩, hfound, heq⟩ := Option.map_eq_some_iff.1 h
  cases heq
  exact ⟨inner, hfound, rfl⟩

/-- A backslash that hides no character ends the text. -/
theorem eq_nil_of_escape (h : ∀ d more, c = '\\' → rest = d :: more → False) (hc : c = '\\') :
    rest = [] := by
  cases rest with
  | nil => rfl
  | cons d more => exact (h d more hc rfl).elim

/-- Closing braces are cut off at any depth, so what is left for plain characters is none. -/
theorem ne_close (hzero : depth = 0 → c = '}' → False)
    (hsucc : ∀ outer : Nat, depth = outer.succ → c = '}' → False) : c ≠ '}' := by
  cases depth with
  | zero => exact hzero rfl
  | succ depth => exact hsucc depth rfl

theorem closes_of_braceBody? (h : braceBody? depth text = some (body, after)) :
    text = body ++ '}' :: after ∧ Closes (fun _ => True) depth body := by
  -- The depth is that of the groups still open; only a closing brace at zero ends the body.
  fun_induction Section.braceBody? depth text generalizing body with
  | case1 | case2 => cases h
  | case3 depth c rest ih =>
    obtain ⟨inner, hinner, rfl⟩ := eq_of_map_front (fun body => '\\' :: c :: body) h
    obtain ⟨rfl, hcloses⟩ := ih hinner
    exact ⟨rfl, .escaped c hcloses⟩
  | case4 depth rest ih =>
    obtain ⟨inner, hinner, rfl⟩ := eq_of_map_front ('{' :: ·) h
    obtain ⟨rfl, hcloses⟩ := ih hinner
    exact ⟨rfl, .opened hcloses⟩
  | case5 rest =>
    cases h
    exact ⟨rfl, .nil⟩
  | case6 depth rest ih =>
    obtain ⟨inner, hinner, rfl⟩ := eq_of_map_front ('}' :: ·) h
    obtain ⟨rfl, hcloses⟩ := ih hinner
    exact ⟨rfl, .closed hcloses⟩
  | case7 depth c rest hlone hescape hopen hzero hsucc ih =>
    have hs : c ≠ '\\' := fun heq => hlone heq (eq_nil_of_escape hescape heq)
    obtain ⟨inner, hinner, rfl⟩ := eq_of_map_front (c :: ·) h
    obtain ⟨rfl, hcloses⟩ := ih hinner
    exact ⟨rfl, .plain hs hopen (ne_close hzero hsucc) (fun _ => trivial) hcloses⟩

/-- **The body is the balanced text before a closing brace.** -/
theorem braceBody?_eq_some_iff :
    braceBody? 0 text = some (body, after) ↔ text = body ++ '}' :: after ∧ Balanced body := by
  constructor
  · exact closes_of_braceBody?
  · rintro ⟨rfl, hbalanced⟩
    exact hbalanced.braceBody? after

/-- A text has one balanced body before a closing brace at most. -/
theorem Balanced.unique {body' after' : List Char} (h : Balanced body) (h' : Balanced body')
    (heq : body ++ '}' :: after = body' ++ '}' :: after') : body = body' ∧ after = after' := by
  have hfound := h.braceBody? after
  rw [heq, h'.braceBody? after'] at hfound
  cases hfound
  exact ⟨rfl, rfl⟩

theorem braceBody?_eq_none_iff :
    braceBody? 0 text = none ↔ ∀ body after, text = body ++ '}' :: after → ¬ Balanced body := by
  constructor
  · rintro hnone body after rfl hbalanced
    rw [hbalanced.braceBody? after] at hnone
    cases hnone
  · intro hnot
    cases hfound : braceBody? 0 text with
    | none => rfl
    | some found =>
      obtain ⟨heq, hbalanced⟩ := braceBody?_eq_some_iff.1 hfound
      exact absurd hbalanced (hnot found.1 found.2 heq)

/-! ## The parts of a body -/

theorem join_cons_cons (c : Char) (first : List Char) (others : List (List Char)) :
    Text.join [','] ((c :: first) :: others) = c :: Text.join [','] (first :: others) := by
  cases others <;> rfl

theorem parts_plain (hs : c ≠ '\\') (ho : c ≠ '{') (hc : c ≠ '}') (hcomma : depth = 0 → c ≠ ',') :
    parts depth (c :: rest) = prepend [c] (parts depth rest) := by
  rw [parts.eq_def]
  split <;> simp_all

/-- The parts of a text that closes `depth` groups: the first one closes them, the others are
balanced, and commas between them give the text back. -/
theorem Closes.parts (h : Closes allowed depth text) :
    ∃ first others, parts depth text = first :: others ∧ Closes (· ≠ ',') depth first ∧
      (∀ part ∈ others, IsPart part) ∧ Text.join [','] (first :: others) = text := by
  induction h with
  | nil => exact ⟨[], [], rfl, .nil, by simp, rfl⟩
  | @escaped depth c rest _ ih =>
    obtain ⟨first, others, hparts, hfirst, hothers, hjoin⟩ := ih
    refine ⟨'\\' :: c :: first, others, by simp [Section.parts, hparts, prepend],
      .escaped c hfirst, hothers, ?_⟩
    rw [join_cons_cons, join_cons_cons, hjoin]
  | @opened depth rest _ ih =>
    obtain ⟨first, others, hparts, hfirst, hothers, hjoin⟩ := ih
    refine ⟨'{' :: first, others, by simp [Section.parts, hparts, prepend], .opened hfirst,
      hothers, ?_⟩
    rw [join_cons_cons, hjoin]
  | @closed depth rest _ ih =>
    obtain ⟨first, others, hparts, hfirst, hothers, hjoin⟩ := ih
    refine ⟨'}' :: first, others, by simp [Section.parts, hparts, prepend], .closed hfirst,
      hothers, ?_⟩
    rw [join_cons_cons, hjoin]
  | @plain depth c rest hs ho hc _ _ ih =>
    obtain ⟨first, others, hparts, hfirst, hothers, hjoin⟩ := ih
    by_cases hcut : depth = 0 ∧ c = ','
    · -- A comma outside of groups ends the first part.
      obtain ⟨rfl, rfl⟩ := hcut
      refine ⟨[], first :: others, by simp [Section.parts, hparts], .nil, ?_, by rw [← hjoin]; rfl⟩
      intro part hmem
      rcases List.mem_cons.1 hmem with rfl | hmem
      · exact hfirst
      · exact hothers part hmem
    · have hcomma : depth = 0 → c ≠ ',' := fun hd hcomma => hcut ⟨hd, hcomma⟩
      refine ⟨c :: first, others, by rw [parts_plain hs ho hc hcomma, hparts]; rfl,
        .plain hs ho hc hcomma hfirst, hothers, ?_⟩
      rw [join_cons_cons, hjoin]

theorem prepend_prepend (chars more : List Char) (list : List (List Char)) :
    prepend chars (prepend more list) = prepend (chars ++ more) list := by
  cases list with
  | nil => rfl
  | cons part list => simp [prepend]

theorem prepend_nil_parts (depth : Nat) (text : List Char) :
    prepend [] (parts depth text) = parts depth text := by
  cases hparts : parts depth text with
  | cons part list => rfl
  | nil =>
    exfalso
    rw [parts.eq_def] at hparts
    have hne : ∀ chars list, prepend chars list ≠ [] := by
      intro chars list
      cases list <;> simp [prepend]
    split at hparts <;> first | exact hne _ _ hparts | cases hparts

theorem parts_append (h : Closes (· ≠ ',') depth first) (rest : List Char) :
    parts depth (first ++ rest) = prepend first (parts 0 rest) := by
  induction h with
  | nil => exact (prepend_nil_parts 0 rest).symm
  | escaped c _ ih => simp [Section.parts, ih, prepend_prepend]
  | opened _ ih => simp [Section.parts, ih, prepend_prepend]
  | closed _ ih => simp [Section.parts, ih, prepend_prepend]
  | plain hs ho hc hcomma _ ih => simp [parts_plain hs ho hc hcomma, ih, prepend_prepend]

theorem parts_join (hfirst : IsPart first) (hothers : ∀ part ∈ others, IsPart part) :
    parts 0 (Text.join [','] (first :: others)) = first :: others := by
  induction others generalizing first with
  | nil =>
    have happend := parts_append hfirst []
    rw [List.append_nil] at happend
    rw [Text.join, happend]
    simp [Section.parts, prepend]
  | cons other others ih =>
    have hrest := ih (hothers other List.mem_cons_self)
      fun part hmem => hothers part (List.mem_cons_of_mem _ hmem)
    rw [Text.join, List.append_assoc, parts_append hfirst]
    · simp [Section.parts, hrest, prepend]
    · simp

theorem balanced_join (hlist : ∀ part ∈ list, IsPart part) : Balanced (Text.join [','] list) := by
  induction list with
  | nil => exact .nil
  | cons first others ih =>
    have hfirst := (hlist first List.mem_cons_self).balanced
    have hrest := ih fun part hmem => hlist part (List.mem_cons_of_mem _ hmem)
    cases others with
    | nil => exact hfirst
    | cons other others =>
      rw [Text.join, List.append_assoc]
      · exact hfirst.append
          (.plain (by decide) (by decide) (by decide) (fun _ => trivial) hrest)
      · simp

/-- **The parts of a balanced body are the parts that give the body back.** -/
theorem parts_eq_iff (h : Balanced body) :
    parts 0 body = list ↔
      list ≠ [] ∧ (∀ part ∈ list, IsPart part) ∧ Text.join [','] list = body := by
  constructor
  · rintro rfl
    obtain ⟨first, others, hparts, hfirst, hothers, hjoin⟩ := h.parts
    rw [hparts]
    refine ⟨by simp, fun part hmem => ?_, hjoin⟩
    rcases List.mem_cons.1 hmem with rfl | hmem
    · exact hfirst
    · exact hothers part hmem
  · rintro ⟨hne, hlist, rfl⟩
    cases list with
    | nil => exact absurd rfl hne
    | cons first others =>
      exact parts_join (hlist first List.mem_cons_self)
        fun part hmem => hlist part (List.mem_cons_of_mem _ hmem)

/-- A body that is not cut is its own part. -/
theorem isPart_of_length_parts (h : Balanced body) (hlength : (parts 0 body).length < 2) :
    IsPart body := by
  obtain ⟨hne, hlist, hjoin⟩ := (parts_eq_iff h).1 rfl
  obtain ⟨part, hparts⟩ : ∃ part, parts 0 body = [part] := by
    rw [← List.length_eq_one_iff]
    have := List.length_pos_iff.2 hne
    omega
  rw [hparts] at hlist hjoin
  rw [← hjoin]
  exact hlist part List.mem_cons_self

/-- Where a part stands in the body. -/
theorem exists_around_part (hlist : ∀ part ∈ list, IsPart part) (hmem : part ∈ list) :
    ∃ before after, Text.join [','] list = before ++ part ++ after ∧ Whole before := by
  induction list with
  | nil => cases hmem
  | cons first others ih =>
    cases others with
    | nil =>
      rw [List.mem_singleton.1 hmem]
      exact ⟨[], [], by simp [Text.join], .nil⟩
    | cons other others =>
      have hjoin : Text.join [','] (first :: other :: others) =
          first ++ ',' :: Text.join [','] (other :: others) := by
        simp [Text.join]
      rw [hjoin]
      rcases List.mem_cons.1 hmem with rfl | hmem
      · exact ⟨[], _, rfl, .nil⟩
      · obtain ⟨before, after, heq, hwhole⟩ :=
          ih (fun part hmem => hlist part (List.mem_cons_of_mem _ hmem)) hmem
        rw [heq]
        exact ⟨first ++ ',' :: before, after, by simp,
          (hlist first List.mem_cons_self).whole.append (.plain (by decide) hwhole)⟩

end StyleCheck.Section
