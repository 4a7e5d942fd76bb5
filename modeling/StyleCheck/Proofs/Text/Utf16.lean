import StyleCheck.Text.Utf16

/-!
# UTF-16 is read back

**Theorem (`Utf16.decode?_encode`).** Strict decoding undoes encoding in either byte order.

**Theorem (`exists_of_decode?`).** Bytes that store characters of one unit each are read as these
characters wherever they stand in a text, behind an even number of bytes.

Bytes are read in pairs, so the units of a text come back whatever they are (`units?_unitBytes`).
A character below the surrogates' pairs is one unit that is no surrogate, and every other one is a
high unit and a low one (`ofUnits?_unitsOf`).
-/

namespace StyleCheck.Text.Utf16

variable {order : ByteOrder} {u v : Nat} {units : List Nat} {bytes : List UInt8}

/-! ## Units and their bytes -/

theorem unitBytes_eq (order : ByteOrder) (hu : u < 65536) :
    ∃ a b, unitBytes order u = [a, b] ∧ unit order a b = u := by
  have hhigh : (UInt8.ofNat (u / 256)).toNat = u / 256 :=
    UInt8.toNat_ofNat_of_lt' (show u / 256 < 256 by omega)
  have hlow : (UInt8.ofNat (u % 256)).toNat = u % 256 :=
    UInt8.toNat_ofNat_of_lt' (show u % 256 < 256 by omega)
  cases order with
  | little => exact ⟨_, _, rfl, by simp only [unit, hhigh, hlow]; omega⟩
  | big => exact ⟨_, _, rfl, by simp only [unit, hhigh, hlow]; omega⟩

theorem units?_unitBytes (hu : u < 65536) :
    units? order (unitBytes order u ++ bytes) = (units? order bytes).map (u :: ·) := by
  obtain ⟨a, b, hbytes, hunit⟩ := unitBytes_eq order hu
  rw [hbytes]
  simp only [List.cons_append, List.nil_append, units?, hunit]

theorem units?_flatMap (h : ∀ u ∈ units, u < 65536) :
    units? order (units.flatMap (unitBytes order)) = some units := by
  induction units with
  | nil => rfl
  | cons u units ih =>
    rw [List.flatMap_cons, units?_unitBytes (h u List.mem_cons_self),
      ih fun v hv => h v (List.mem_cons_of_mem _ hv)]
    rfl

/-! ## Characters and their units -/

theorem lt_of_mem_unitsOf {c : Char} (h : u ∈ unitsOf c) : u < 65536 := by
  have hscalar : c.toNat < 0xD800 ∨ 0xDFFF < c.toNat ∧ c.toNat < 0x110000 := c.valid
  unfold unitsOf at h
  split at h
  next hsmall =>
    rw [List.mem_singleton.1 h]
    exact hsmall
  next hlarge =>
    simp only [List.mem_cons, List.not_mem_nil, or_false] at h
    rcases h with h | h <;> omega

theorem ofUnits?_plain (hhigh : isHigh u = false) (hlow : isLow u = false) :
    ofUnits? (u :: units) = (ofUnits? units).map (Char.ofNat u :: ·) := by
  cases units with
  | nil => simp [ofUnits?, hhigh, hlow]
  | cons v units => simp [ofUnits?, hhigh, hlow]

theorem ofUnits?_pair (hhigh : isHigh u = true) (hlow : isLow v = true) :
    ofUnits? (u :: v :: units) =
      (ofUnits? units).map (Char.ofNat (0x10000 + (u - 0xD800) * 1024 + (v - 0xDC00)) :: ·) := by
  rw [ofUnits?, if_pos hhigh, if_pos hlow]

theorem ofUnits?_unitsOf (c : Char) (units : List Nat) :
    ofUnits? (unitsOf c ++ units) = (ofUnits? units).map (c :: ·) := by
  have hscalar : c.toNat < 0xD800 ∨ 0xDFFF < c.toNat ∧ c.toNat < 0x110000 := c.valid
  have hchar : Char.ofNat c.toNat = c := Char.ofNat_toNat c
  unfold unitsOf
  split
  next hsmall =>
    have hhigh : isHigh c.toNat = false := by
      rw [isHigh, Bool.and_eq_false_iff]
      simp only [decide_eq_false_iff_not]
      omega
    have hlow : isLow c.toNat = false := by
      rw [isLow, Bool.and_eq_false_iff]
      simp only [decide_eq_false_iff_not]
      omega
    rw [List.singleton_append, ofUnits?_plain hhigh hlow, hchar]
  next hlarge =>
    have hhigh : isHigh (0xD800 + (c.toNat - 0x10000) / 1024) = true := by
      rw [isHigh, Bool.and_eq_true]
      simp only [decide_eq_true_eq]
      omega
    have hlow : isLow (0xDC00 + (c.toNat - 0x10000) % 1024) = true := by
      rw [isLow, Bool.and_eq_true]
      simp only [decide_eq_true_eq]
      omega
    have hvalue : 0x10000 + (0xD800 + (c.toNat - 0x10000) / 1024 - 0xD800) * 1024 +
        (0xDC00 + (c.toNat - 0x10000) % 1024 - 0xDC00) = c.toNat := by
      omega
    rw [List.cons_append, List.singleton_append, ofUnits?_pair hhigh hlow, hvalue, hchar]

theorem ofUnits?_flatMap (text : List Char) : ofUnits? (text.flatMap unitsOf) = some text := by
  induction text with
  | nil => rfl
  | cons c text ih =>
    rw [List.flatMap_cons, ofUnits?_unitsOf, ih]
    rfl

/-! ## Round trip -/

theorem encode_eq_flatMap (order : ByteOrder) (text : List Char) :
    encode order text = (text.flatMap unitsOf).flatMap (unitBytes order) := by
  rw [encode, List.flatMap_assoc]

/-- **Decoding undoes encoding.** -/
theorem decode?_encode (order : ByteOrder) (text : List Char) :
    decode? order (encode order text) = some text := by
  have hunits : ∀ u ∈ text.flatMap unitsOf, u < 65536 := by
    intro u hu
    obtain ⟨c, -, hc⟩ := List.mem_flatMap.1 hu
    exact lt_of_mem_unitsOf hc
  rw [decode?, encode_eq_flatMap, units?_flatMap hunits, Option.bind_some, ofUnits?_flatMap]

/-- The first two bytes of a text are zero only if it starts with the character zero. -/
theorem encode_ne_zeros {text : List Char} (h : ∀ c ∈ text, c.toNat ≠ 0) (rest : List UInt8) :
    encode order text ≠ 0 :: 0 :: rest := by
  intro heq
  have hdecode := decode?_encode order text
  rw [heq, decode?, units?] at hdecode
  obtain ⟨units, hunits, hchars⟩ := Option.bind_eq_some_iff.1 hdecode
  obtain ⟨others, -, rfl⟩ := Option.map_eq_some_iff.1 hunits
  have hzero : unit order 0 0 = 0 := by
    cases order <;> rfl
  rw [hzero, ofUnits?_plain rfl rfl] at hchars
  obtain ⟨more, -, rfl⟩ := Option.map_eq_some_iff.1 hchars
  exact h _ List.mem_cons_self rfl

/-! ## Cutting -/

/-- The unit is a character of its own. -/
def IsPlain (u : Nat) : Prop := isHigh u = false ∧ isLow u = false

instance (u : Nat) : Decidable (IsPlain u) := inferInstanceAs (Decidable (_ ∧ _))

/-- Behind an even number of bytes units begin anew. -/
theorem units?_append {front : List UInt8} (h : front.length % 2 = 0) (back : List UInt8) :
    units? order (front ++ back) =
      (units? order front).bind fun before => (units? order back).map (before ++ ·) := by
  fun_induction units? order front with
  | case1 => simp
  | case2 b => simp at h
  | case3 a b rest ih =>
    simp only [List.length_cons] at h
    rw [List.cons_append, List.cons_append, units?, ih (by omega)]
    cases units? order rest <;> cases units? order back <;> rfl

/-- A unit that is no surrogate ends what comes before it. -/
theorem ofUnits?_append (hu : IsPlain u) (front back : List Nat) :
    ofUnits? (front ++ u :: back) =
      (ofUnits? front).bind fun before => (ofUnits? (u :: back)).map (before ++ ·) := by
  fun_induction ofUnits? front with
  | case1 => simp
  | case2 v hv =>
    obtain ⟨hhigh, hlow⟩ := hu
    -- A surrogate alone is refused on both sides, because no low one follows it.
    by_cases hvhigh : isHigh v = true
    · simp [ofUnits?, hvhigh, hlow]
    · have hvlow : isLow v = true := by simpa [hvhigh] using hv
      simp [ofUnits?, hvhigh, hvlow]
  | case3 v hv =>
    rw [Bool.or_eq_true, not_or, Bool.not_eq_true, Bool.not_eq_true] at hv
    rw [List.singleton_append, ofUnits?_plain hv.1 hv.2]
    rfl
  | case4 v w rest hv hw ih =>
    rw [List.cons_append, List.cons_append, ofUnits?_pair hv hw, ih]
    cases ofUnits? rest <;> cases ofUnits? (u :: back) <;> rfl
  | case5 v w rest hv hw =>
    simp [ofUnits?, hv, hw]
  | case6 v w rest hv hw =>
    simp [ofUnits?, hv, hw]
  | case7 v w rest hv hw ih =>
    rw [Bool.not_eq_true] at hv hw
    rw [List.cons_append, ofUnits?_plain hv hw, ih]
    cases ofUnits? (w :: rest) <;> cases ofUnits? (u :: back) <;> rfl

theorem ofUnits?_plain_append (h : ∀ u ∈ units, IsPlain u) (back : List Nat) :
    ofUnits? (units ++ back) = (ofUnits? back).map (units.map Char.ofNat ++ ·) := by
  induction units with
  | nil => simp
  | cons u units ih =>
    obtain ⟨hu, hunits⟩ := List.forall_mem_cons.1 h
    rw [List.cons_append, ofUnits?_plain hu.1 hu.2, ih hunits]
    cases ofUnits? back <;> rfl

/-- **A stretch of plain units is read on its own**, wherever it stands behind an even number of
bytes. -/
theorem exists_of_decode? {front word back : List UInt8} {text : List Char}
    (h : decode? order (front ++ (word ++ back)) = some text) (hfront : front.length % 2 = 0)
    (hword : word.length % 2 = 0) (hunits : units? order word = some units)
    (hplain : ∀ u ∈ units, IsPlain u) (hne : units ≠ []) :
    ∃ before after, decode? order front = some before ∧
      text = before ++ (units.map Char.ofNat ++ after) := by
  rw [decode?, units?_append hfront, units?_append hword, hunits] at h
  cases hbefore : units? order front with
  | none => simp [hbefore] at h
  | some before =>
    cases hafter : units? order back with
    | none => simp [hbefore, hafter] at h
    | some after =>
      obtain ⟨u, more, rfl⟩ := List.exists_cons_of_ne_nil hne
      simp only [hbefore, hafter, Option.bind_some, Option.map_some, List.cons_append] at h
      rw [ofUnits?_append (hplain u List.mem_cons_self), ← List.cons_append,
        ofUnits?_plain_append hplain] at h
      obtain ⟨front, hfronttext, hrest⟩ := Option.bind_eq_some_iff.1 h
      rw [Option.map_map] at hrest
      obtain ⟨back, -, rfl⟩ := Option.map_eq_some_iff.1 hrest
      refine ⟨front, back, ?_, rfl⟩
      rw [decode?, hbefore]
      exact hfronttext

/-- Where characters come from: from one unit, or from two and then beyond all units. -/
theorem exists_of_mem_ofUnits? {text : List Char} {c : Char} (h : ofUnits? units = some text)
    (hc : c ∈ text) : ∃ n, c = Char.ofNat n ∧ (n ∈ units ∨ 0x10000 ≤ n) := by
  fun_induction ofUnits? units generalizing text with
  | case1 =>
    cases h
    cases hc
  | case2 => cases h
  | case3 u =>
    cases h
    exact ⟨u, List.mem_singleton.1 hc, .inl (List.mem_singleton_self u)⟩
  | case4 u v rest hu hv ih =>
    obtain ⟨text, htext, rfl⟩ := Option.map_eq_some_iff.1 h
    rcases List.mem_cons.1 hc with hc | hc
    · refine ⟨_, hc, .inr ?_⟩
      rw [Nat.add_assoc]
      exact Nat.le_add_right _ _
    · obtain ⟨n, hn, hmem⟩ := ih htext hc
      exact ⟨n, hn, hmem.imp_left fun hmem => List.mem_cons_of_mem _ (List.mem_cons_of_mem _ hmem)⟩
  | case5 => cases h
  | case6 => cases h
  | case7 u v rest hu hv ih =>
    obtain ⟨text, htext, rfl⟩ := Option.map_eq_some_iff.1 h
    rcases List.mem_cons.1 hc with rfl | hc
    · exact ⟨u, rfl, .inl List.mem_cons_self⟩
    · obtain ⟨n, hn, hmem⟩ := ih htext hc
      exact ⟨n, hn, hmem.imp_left (List.mem_cons_of_mem _)⟩

theorem exists_of_mem_units? (h : units? order bytes = some units) (hu : u ∈ units) :
    ∃ a ∈ bytes, ∃ b ∈ bytes, u = unit order a b := by
  fun_induction units? order bytes generalizing units with
  | case1 =>
    cases h
    cases hu
  | case2 => cases h
  | case3 a b rest ih =>
    obtain ⟨others, hothers, rfl⟩ := Option.map_eq_some_iff.1 h
    rcases List.mem_cons.1 hu with rfl | hu
    · exact ⟨a, List.mem_cons_self, b, List.mem_cons_of_mem _ List.mem_cons_self, rfl⟩
    · obtain ⟨c, hc, d, hd, heq⟩ := ih hothers hu
      exact ⟨c, List.mem_cons_of_mem _ (List.mem_cons_of_mem _ hc), d,
        List.mem_cons_of_mem _ (List.mem_cons_of_mem _ hd), heq⟩

end StyleCheck.Text.Utf16
