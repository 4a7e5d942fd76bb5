import StyleCheck.Proofs.Section.Braces

/-!
# Searching a group and splitting it

The end of a group is searched from its opening brace on, and its body is split from the character
behind that brace on. Both count the groups that are open, each from its own start.

`groupEnd` and `strictParts?` are the search and the splitting with every count in them. They stop
where a count would fall below zero.

**Theorem (`groups_split`).** Neither ever does in a group that is closed, and the parts of the body
are balanced, joined by commas they are the body, and all of them are shorter than the text that the
group is in. So going from a text into its groups comes to an end.

At the same character the search has one group more open than the splitting, because it counted the
opening brace. It goes on while that group is open (`groupEnd_eq`), and what it has passed over is
balanced, so that no brace of it is one too many for the splitting (`strictParts?_eq_parts`).
-/

namespace StyleCheck.Section

variable {c : Char} {allowed : Char → Prop} {depth index behind : Nat}
  {front text rest body after inner part : List Char}

/-! ## Counting -/

/-- How many groups are open behind a character, with `depth` open before it; `none` if it closes
one when none is open. -/
def openBehind? (depth : Nat) (c : Char) : Option Nat :=
  if c = '{' then some (depth + 1)
  else if c = '}' then if depth = 0 then none else some (depth - 1)
  else some depth

@[simp]
theorem openBehind?_open : openBehind? depth '{' = some (depth + 1) := rfl

@[simp]
theorem openBehind?_close : openBehind? (depth + 1) '}' = some depth := rfl

theorem openBehind?_plain (ho : c ≠ '{') (hc : c ≠ '}') : openBehind? depth c = some depth := by
  rw [openBehind?, if_neg ho, if_neg hc]

/-! ## The search -/

/-- What the search for the end of a group comes to. -/
inductive GroupEnd
  /-- The brace at this index closes the group. -/
  | found (index : Nat)
  /-- No brace closes the group. -/
  | missing
  /-- A brace closes a group when none is open. -/
  | unopened

/-- The index of the brace that closes the last open group, in a text whose first character has the
given index. A backslash hides the character after it. -/
def groupEnd : (depth index : Nat) → List Char → GroupEnd
  | _, _, [] => .missing
  | depth, index, '\\' :: _ :: rest => groupEnd depth (index + 2) rest
  | depth, index, c :: rest =>
    match openBehind? depth c with
    | none => .unopened
    | some behind =>
      if c = '}' ∧ behind = 0 then .found index else groupEnd behind (index + 1) rest

theorem groupEnd_cons (hescape : c = '\\' → rest = []) (hopen : openBehind? depth c = some behind)
    (hend : c = '}' → behind ≠ 0) :
    groupEnd depth index (c :: rest) = groupEnd behind (index + 1) rest := by
  rw [groupEnd]
  · rw [hopen]
    exact if_neg fun h => hend h.1 h.2
  · rintro d more rfl rfl
    cases hescape rfl

/-- The end of the group whose body starts at the index. -/
def GroupEnd.ofBody? (index : Nat) (found : Option (List Char × List Char)) : GroupEnd :=
  found.elim .missing fun found => .found (index + found.1.length)

/-- Characters in front of the body move its start. -/
theorem GroupEnd.ofBody?_map (front : List Char) (found : Option (List Char × List Char)) :
    ofBody? index (found.map fun (body, after) => (front ++ body, after)) =
      ofBody? (index + front.length) found := by
  cases found <;> simp [ofBody?, Nat.add_assoc]

/-- **With a group open, the search finds the end of its body**, and never a brace too many. -/
theorem groupEnd_eq (depth index : Nat) (text : List Char) :
    groupEnd (depth + 1) index text = .ofBody? index (braceBody? depth text) := by
  fun_induction braceBody? depth text generalizing index with
  | case1 | case2 => rfl
  | case3 depth c rest ih =>
    rw [groupEnd, ih]
    exact (GroupEnd.ofBody?_map ['\\', c] _).symm
  | case4 depth rest ih =>
    rw [groupEnd_cons (by simp) openBehind?_open (by simp), ih]
    exact (GroupEnd.ofBody?_map ['{'] _).symm
  | case5 rest => rfl
  | case6 depth rest ih =>
    rw [groupEnd_cons (by simp) openBehind?_close (by simp), ih]
    exact (GroupEnd.ofBody?_map ['}'] _).symm
  | case7 depth c rest hlone hescape hopen hzero hsucc ih =>
    have hclose := ne_close hzero hsucc
    rw [groupEnd_cons (eq_nil_of_escape hescape) (openBehind?_plain hopen hclose)
      (absurd · hclose), ih]
    exact (GroupEnd.ofBody?_map [c] _).symm

/-! ## The splitting -/

/-- The parts of a brace body between the commas outside inner groups, of which `depth` are open;
`none` if a brace closes a group when none is open. -/
def strictParts? : (depth : Nat) → List Char → Option (List (List Char))
  | _, [] => some [[]]
  | depth, '\\' :: c :: rest => (strictParts? depth rest).map (prepend ['\\', c])
  | depth, c :: rest =>
    if c = ',' ∧ depth = 0 then (strictParts? 0 rest).map ([] :: ·)
    else (openBehind? depth c).bind fun behind => (strictParts? behind rest).map (prepend [c])

theorem strictParts?_cons (hescape : c ≠ '\\') (hcomma : c = ',' → depth ≠ 0)
    (hopen : openBehind? depth c = some behind) :
    strictParts? depth (c :: rest) = (strictParts? behind rest).map (prepend [c]) := by
  rw [strictParts?]
  · rw [if_neg fun h => hcomma h.1 h.2, hopen]
    rfl
  · exact fun _ _ heq _ => hescape heq

/-- **Splitting a text that closes its groups** meets no brace too many. -/
theorem strictParts?_eq_parts (h : Closes allowed depth text) :
    strictParts? depth text = some (parts depth text) := by
  induction h with
  | nil => rfl
  | escaped c _ ih => simp [strictParts?, parts, ih]
  | opened _ ih =>
    rw [strictParts?_cons (by decide) (by simp) openBehind?_open, ih, parts]
    rfl
  | closed _ ih =>
    rw [strictParts?_cons (by decide) (by simp) openBehind?_close, ih, parts]
    rfl
  | @plain depth c rest hs ho hc _ _ ih =>
    by_cases hcut : depth = 0 ∧ c = ','
    · obtain ⟨rfl, rfl⟩ := hcut
      simp [strictParts?, parts, ih]
    · have hcomma : depth = 0 → c ≠ ',' := fun hd hcomma => hcut ⟨hd, hcomma⟩
      rw [strictParts?_cons hs (fun hcomma hd => hcut ⟨hd, hcomma⟩) (openBehind?_plain ho hc), ih,
        parts_plain hs ho hc hcomma]
      rfl

/-! ## Going into groups -/

/-- To read the first text, the second one is read: it is the body or a part of a group that starts
in the first one. -/
inductive Encloses : List Char → List Char → Prop
  | body {front rest body after : List Char} : braceBody? 0 rest = some (body, after) →
    Encloses (front ++ '{' :: rest) body
  | part {front rest body after part : List Char} : braceBody? 0 rest = some (body, after) →
    part ∈ parts 0 body → Encloses (front ++ '{' :: rest) part

theorem Encloses.length_lt (h : Encloses text inner) : inner.length < text.length := by
  cases h with
  | body hfound =>
    have hbody := length_braceBody? hfound
    simp only [List.length_append, List.length_cons]
    omega
  | part hfound hpart =>
    have hbody := length_braceBody? hfound
    have hle := length_of_mem_parts hpart
    simp only [List.length_append, List.length_cons]
    omega

/-- **Going from a text into its groups comes to an end.** -/
theorem wellFounded_encloses : WellFounded fun inner text => Encloses text inner :=
  Subrelation.wf Encloses.length_lt (InvImage.wf List.length Nat.lt_wfRel.wf)

/-! ## Closed groups -/

/-- **A group that is closed is searched and split by the same braces.** -/
theorem groups_split (front : List Char) (hfound : braceBody? 0 rest = some (body, after)) :
    rest = body ++ '}' :: after ∧
    groupEnd 0 front.length ('{' :: rest) = .found (front.length + 1 + body.length) ∧
    strictParts? 0 body = some (parts 0 body) ∧
    Text.join [','] (parts 0 body) = body ∧
    (∀ part ∈ parts 0 body, Balanced part ∧ Whole part ∧
      part.length < (front ++ '{' :: rest).length) ∧
    Acc (fun inner text => Encloses text inner) (front ++ '{' :: rest) := by
  obtain ⟨heq, hbalanced⟩ := braceBody?_eq_some_iff.1 hfound
  obtain ⟨-, hlist, hjoin⟩ := (parts_eq_iff hbalanced).1 rfl
  have hend : groupEnd 0 front.length ('{' :: rest) = .found (front.length + 1 + body.length) := by
    rw [groupEnd_cons (by simp) openBehind?_open (by simp), groupEnd_eq, hfound]
    rfl
  refine ⟨heq, hend, strictParts?_eq_parts hbalanced, hjoin, fun part hpart => ?_,
    wellFounded_encloses.apply _⟩
  have hbalancedPart := (hlist part hpart).balanced
  exact ⟨hbalancedPart, hbalancedPart.whole, (Encloses.part hfound hpart).length_lt⟩

theorem groups_split_escapes :
    braceBody? 0 "a\\,\x7bb,c\x7d,\\\x7d\x7d/d".toList =
        some ("a\\,\x7bb,c\x7d,\\\x7d".toList, "/d".toList) ∧
      groupEnd 0 3 "\x7ba\\,\x7bb,c\x7d,\\\x7d\x7d/d".toList = .found 15 ∧
      strictParts? 0 "a\\,\x7bb,c\x7d,\\\x7d".toList =
        some ["a\\,\x7bb,c\x7d".toList, "\\\x7d".toList] := by
  have hfound : braceBody? 0 "a\\,\x7bb,c\x7d,\\\x7d\x7d/d".toList =
      some ("a\\,\x7bb,c\x7d,\\\x7d".toList, "/d".toList) := by decide
  obtain ⟨-, hend, hparts, -⟩ := groups_split "xyz".toList hfound
  exact ⟨hfound, hend, hparts⟩

end StyleCheck.Section
