import StyleCheck.Charset.Gb18030

/-!
# HZ is read token by token

**Theorem (`decodes_iff_tokens`).** Bytes have a text in HZ if and only if they are cut into tokens
of which each may stand where it stands, and the text is what the tokens stand for. A text is read
back from what it is written as, and every text can be written whose characters are ASCII or have a
pair.

A token leads from a mode to a mode, outside or inside a span (`Leads`), and tokens that lead on
from each other are a run (`IsRun`). Reading a token leaves the bytes behind it in the mode that it
leads to (`decodeFrom_token`), so a run is read as a whole (`decodeFrom_run`); and every step of
the reader takes a token (`standFor_of_decodeFrom`). Writing makes a run, with an end or a start of
a span wherever the mode changes (`standFor_of_tokens?`).
-/

namespace StyleCheck.Charset.Hz

/-! ## Tokens -/

/-- What is read in one step. -/
inductive Token
  /-- A byte for its ASCII character. -/
  | ascii (b : UInt8)
  /-- `~~`, a tilde. -/
  | tilde
  /-- `~` and a line feed, which stand for nothing. -/
  | continuation
  /-- `~{`, the start of a span. -/
  | enter
  /-- `~}`, the end of a span. -/
  | leave
  /-- Two bytes for a character. -/
  | pair (a b : UInt8) (char : Char)
  deriving DecidableEq, Repr

namespace Token

/-- The bytes of a token. -/
def bytes : Token → List UInt8
  | ascii b => [b]
  | tilde => [0x7E, 0x7E]
  | continuation => [0x7E, 0x0A]
  | enter => [0x7E, 0x7B]
  | leave => [0x7E, 0x7D]
  | pair a b _ => [a, b]

/-- What a token stands for. -/
def text : Token → List Char
  | ascii b => [Char.ofNat b.toNat]
  | tilde => ['~']
  | pair _ _ char => [char]
  | continuation | enter | leave => []

end Token

/-- Where a token may stand, outside or inside a span, and what it leads to. The first byte of a
pair is no `~`, and the second one may be. -/
inductive Leads (pairs : Pairs) : Bool → Token → Bool → Prop
  | ascii {b : UInt8} : b < 0x80 → b ≠ 0x7E → Leads pairs false (.ascii b) false
  | tilde : Leads pairs false .tilde false
  | continuation : Leads pairs false .continuation false
  | enter : Leads pairs false .enter true
  | leave : Leads pairs true .leave false
  | pair {a b : UInt8} {char : Char} : within 0x21 0x7D a = true → within 0x21 0x7E b = true →
    pairs (a + 0x80) (b + 0x80) = some char → Leads pairs true (.pair a b char) true

/-- Each token may stand where the tokens before it lead to. -/
inductive IsRun (pairs : Pairs) : Bool → List Token → Prop
  | nil {inSpan : Bool} : IsRun pairs inSpan []
  | cons {inSpan next : Bool} {token : Token} {tokens : List Token} :
    Leads pairs inSpan token next → IsRun pairs next tokens → IsRun pairs inSpan (token :: tokens)

variable {pairs : Pairs} {inSpan next : Bool} {token : Token} {tokens : List Token}
  {a b : UInt8} {bytes : List UInt8} {text : List Char} {c : Char}

/-! ## Reading -/

/-- Behind a byte that is no `~`, a pair of the reader is a pair of the grammar. -/
theorem pair?_eq_some_iff (ha : a ≠ 0x7E) :
    pair? pairs a b = some c ↔ Leads pairs true (.pair a b c) true := by
  have hbytes : (isPairByte a && isPairByte b) = true ↔
      within 0x21 0x7D a = true ∧ within 0x21 0x7E b = true := by
    have hne : a.toNat ≠ 0x7E := fun h => ha (UInt8.toNat_inj.1 h)
    simp only [isPairByte, within, Bool.and_eq_true, decide_eq_true_eq, UInt8.le_iff_toNat_le,
      UInt8.reduceToNat]
    omega
  rw [pair?, Option.ite_none_right_eq_some, hbytes]
  constructor
  · rintro ⟨⟨ha, hb⟩, hc⟩
    exact .pair ha hb hc
  · intro hleads
    cases hleads with
    | pair ha hb hc => exact ⟨⟨ha, hb⟩, hc⟩

theorem decodeFrom_token (h : Leads pairs inSpan token next) (rest : List UInt8) :
    decodeFrom pairs inSpan (token.bytes ++ rest) =
      (decodeFrom pairs next rest).map (token.text ++ ·) := by
  cases h with
  | @ascii b hb hne =>
    show decodeFrom pairs false (b :: rest) = _
    rw [decodeFrom.eq_def]
    simp [Token.text, hb, hne]
  | tilde => simp [Token.bytes, Token.text, decodeFrom]
  | continuation => simp [Token.bytes, Token.text, decodeFrom]
  | enter => simp [Token.bytes, Token.text, decodeFrom]
  | leave => simp [Token.bytes, Token.text, decodeFrom]
  | @pair a b char ha hb hchar =>
    have hne : a ≠ 0x7E := by
      rintro rfl
      exact absurd ha (by decide)
    have hpair : pair? pairs a b = some char := (pair?_eq_some_iff hne).2 (.pair ha hb hchar)
    show decodeFrom pairs true (a :: b :: rest) = _
    rw [decodeFrom.eq_def]
    simp [Token.text, hne, hpair]

/-- A run is read as what its tokens stand for. -/
theorem decodeFrom_run (h : IsRun pairs inSpan tokens) :
    decodeFrom pairs inSpan (tokens.flatMap Token.bytes) = some (tokens.flatMap Token.text) := by
  induction h with
  | nil => rfl
  | cons hleads _ ih =>
    rw [List.flatMap_cons, decodeFrom_token hleads, ih]
    rfl

/-- The bytes are cut into a run of tokens that stand for the text. -/
def StandFor (pairs : Pairs) (inSpan : Bool) (bytes : List UInt8) (text : List Char) : Prop :=
  ∃ tokens, IsRun pairs inSpan tokens ∧ tokens.flatMap Token.bytes = bytes ∧
    tokens.flatMap Token.text = text

theorem StandFor.cons (h : StandFor pairs next bytes text)
    (hleads : Leads pairs inSpan token next) :
    StandFor pairs inSpan (token.bytes ++ bytes) (token.text ++ text) := by
  obtain ⟨tokens, hrun, rfl, rfl⟩ := h
  exact ⟨token :: tokens, .cons hleads hrun, List.flatMap_cons, List.flatMap_cons⟩

/-- The reader takes a token in every step. -/
theorem standFor_of_decodeFrom (h : decodeFrom pairs inSpan bytes = some text) :
    StandFor pairs inSpan bytes text := by
  fun_induction decodeFrom pairs inSpan bytes generalizing text with
  | case1 =>
    cases h
    exact ⟨[], .nil, rfl, rfl⟩
  | case3 a ha b more hb ih =>
    obtain rfl := beq_iff_eq.1 ha
    obtain rfl := beq_iff_eq.1 hb
    exact (ih h).cons .leave
  | case5 inSpan a ha b more hspan hb ih =>
    obtain ⟨text, htext, rfl⟩ := Option.map_eq_some_iff.1 h
    obtain rfl := beq_iff_eq.1 ha
    obtain rfl := beq_iff_eq.1 hb
    obtain rfl := Bool.eq_false_iff.2 hspan
    exact (ih htext).cons .tilde
  | case6 inSpan a ha b more hspan htilde hb ih =>
    obtain rfl := beq_iff_eq.1 ha
    obtain rfl := beq_iff_eq.1 hb
    obtain rfl := Bool.eq_false_iff.2 hspan
    exact (ih h).cons .continuation
  | case7 inSpan a ha b more hspan htilde hlf hb ih =>
    obtain rfl := beq_iff_eq.1 ha
    obtain rfl := beq_iff_eq.1 hb
    obtain rfl := Bool.eq_false_iff.2 hspan
    exact (ih h).cons .enter
  | case10 a ha b more ih =>
    obtain ⟨char, hpair, h⟩ := Option.bind_eq_some_iff.1 h
    obtain ⟨text, htext, rfl⟩ := Option.map_eq_some_iff.1 h
    exact (ih htext).cons ((pair?_eq_some_iff (mt beq_iff_eq.2 ha)).1 hpair)
  | case11 inSpan a rest htilde hspan ha ih =>
    obtain ⟨text, htext, rfl⟩ := Option.map_eq_some_iff.1 h
    obtain rfl := Bool.eq_false_iff.2 hspan
    exact (ih htext).cons (.ascii ha (mt beq_iff_eq.2 htilde))
  | case2 | case4 | case8 | case9 | case12 => cases h

theorem decodeFrom_eq_some_iff :
    decodeFrom pairs inSpan bytes = some text ↔ StandFor pairs inSpan bytes text := by
  refine ⟨standFor_of_decodeFrom, ?_⟩
  rintro ⟨tokens, hrun, rfl, rfl⟩
  exact decodeFrom_run hrun

/-! ## Writing -/

/-- The bytes from one to another. -/
def bytesWithin (first last : UInt8) : List UInt8 :=
  ((List.range 256).map UInt8.ofNat).filter (within first last)

/-- The bytes of all pairs, in order. -/
def pairBytes : List (UInt8 × UInt8) :=
  (bytesWithin 0x21 0x7D).flatMap fun a => (bytesWithin 0x21 0x7E).map fun b => (a, b)

/-- The token of a character: the first pair that stands for it, unless it is ASCII. -/
def tokenOf? (pairs : Pairs) (c : Char) : Option Token :=
  if c = '~' then some .tilde
  else if c.toNat < 0x80 then some (.ascii (UInt8.ofNat c.toNat))
  else (pairBytes.find? fun (a, b) => pairs (a + 0x80) (b + 0x80) = some c).map
    fun (a, b) => .pair a b c

/-- Whether the token stands in a span. -/
def Token.isPair : Token → Bool
  | pair _ _ _ => true
  | _ => false

/-- What leads from a mode to a mode. -/
def change : Bool → Bool → List Token
  | false, true => [.enter]
  | true, false => [.leave]
  | _, _ => []

/-- The tokens of a text, with the changes of the mode between them; a span is closed at the end. -/
def tokens? (pairs : Pairs) (inSpan : Bool) : List Char → Option (List Token)
  | [] => some (change inSpan false)
  | c :: text => (tokenOf? pairs c).bind fun token =>
    (tokens? pairs token.isPair text).map (change inSpan token.isPair ++ token :: ·)

/-- The bytes of a text, if all of its characters can be written. -/
def encode? (pairs : Pairs) (text : List Char) : Option (List UInt8) :=
  (tokens? pairs false text).map (List.flatMap Token.bytes)

/-- The character is ASCII or has a pair. -/
def IsWritable (pairs : Pairs) (c : Char) : Prop :=
  c.toNat < 0x80 ∨ ∃ a b, Leads pairs true (.pair a b c) true

theorem mem_bytesWithin {first last : UInt8} :
    b ∈ bytesWithin first last ↔ within first last b = true := by
  have hmem : b ∈ (List.range 256).map UInt8.ofNat :=
    List.mem_map.2 ⟨b.toNat, List.mem_range.2 b.toNat_lt, UInt8.ofNat_toNat⟩
  rw [bytesWithin, List.mem_filter, and_iff_right hmem]

theorem mem_pairBytes :
    (a, b) ∈ pairBytes ↔ within 0x21 0x7D a = true ∧ within 0x21 0x7E b = true := by
  simp [pairBytes, mem_bytesWithin]

/-- The token of a character stands for it and keeps the mode that it stands in. -/
theorem leads_of_tokenOf? (h : tokenOf? pairs c = some token) :
    Leads pairs token.isPair token token.isPair ∧ token.text = [c] := by
  unfold tokenOf? at h
  split at h
  next htilde =>
    cases h
    exact ⟨.tilde, by rw [htilde]; rfl⟩
  split at h
  next htilde hascii =>
    cases h
    have hbyte : (UInt8.ofNat c.toNat).toNat = c.toNat :=
      UInt8.toNat_ofNat_of_lt' (show c.toNat < 256 by omega)
    have hchar : Char.ofNat (UInt8.ofNat c.toNat).toNat = c := by rw [hbyte, Char.ofNat_toNat]
    refine ⟨.ascii (UInt8.lt_iff_toNat_lt.2 (by rwa [hbyte])) ?_, congrArg (· :: []) hchar⟩
    -- A byte `~` would be that of the character `~`, which has another token.
    intro heq
    rw [heq] at hchar
    exact htilde hchar.symm
  · obtain ⟨⟨a, b⟩, hfind, rfl⟩ := Option.map_eq_some_iff.1 h
    obtain ⟨ha, hb⟩ := mem_pairBytes.1 (List.mem_of_find?_eq_some hfind)
    have hchar := List.find?_some hfind
    exact ⟨.pair ha hb (of_decide_eq_true hchar), rfl⟩

theorem isSome_tokenOf?_iff : (tokenOf? pairs c).isSome ↔ IsWritable pairs c := by
  unfold tokenOf? IsWritable
  split
  next htilde =>
    subst htilde
    simp
  split
  next hascii => simp [hascii]
  next hascii =>
    rw [Option.isSome_map, List.find?_isSome, or_iff_right hascii]
    constructor
    · rintro ⟨⟨a, b⟩, hmem, hchar⟩
      obtain ⟨ha, hb⟩ := mem_pairBytes.1 hmem
      exact ⟨a, b, .pair ha hb (of_decide_eq_true hchar)⟩
    · rintro ⟨a, b, hleads⟩
      cases hleads with
      | pair ha hb hchar => exact ⟨(a, b), mem_pairBytes.2 ⟨ha, hb⟩, decide_eq_true hchar⟩

theorem StandFor.change (h : StandFor pairs next bytes text) (inSpan : Bool) :
    StandFor pairs inSpan ((change inSpan next).flatMap Token.bytes ++ bytes) text := by
  cases inSpan <;> cases next
  · exact h
  · exact h.cons .enter
  · exact h.cons .leave
  · exact h

theorem standFor_of_tokens? (h : tokens? pairs inSpan text = some tokens) :
    StandFor pairs inSpan (tokens.flatMap Token.bytes) text := by
  induction text generalizing inSpan tokens with
  | nil =>
    cases h
    have hend : StandFor pairs false [] [] := ⟨[], .nil, rfl, rfl⟩
    simpa using hend.change inSpan
  | cons c text ih =>
    obtain ⟨token, htoken, h⟩ := Option.bind_eq_some_iff.1 h
    obtain ⟨tokens, htokens, rfl⟩ := Option.map_eq_some_iff.1 h
    obtain ⟨hleads, hc⟩ := leads_of_tokenOf? htoken
    have hstand := ((ih htokens).cons hleads).change inSpan
    rw [hc] at hstand
    rw [List.flatMap_append, List.flatMap_cons]
    exact hstand

theorem isSome_tokens?_iff :
    (tokens? pairs inSpan text).isSome ↔ ∀ c ∈ text, IsWritable pairs c := by
  induction text generalizing inSpan with
  | nil => simp [tokens?]
  | cons c text ih =>
    rw [List.forall_mem_cons, ← isSome_tokenOf?_iff, tokens?]
    cases tokenOf? pairs c with
    | none => simp
    | some token => simp [ih]

/-- **Bytes are read as the tokens that they are cut into**, and every text of characters that are
ASCII or have a pair is read back from what it is written as. -/
theorem decodes_iff_tokens (pairs : Pairs) :
    (∀ bytes text, decodeWith pairs bytes = some text ↔
      ∃ tokens, IsRun pairs false tokens ∧ tokens.flatMap Token.bytes = bytes ∧
        tokens.flatMap Token.text = text) ∧
    ∀ text, (encode? pairs text).bind (decodeWith pairs) = some text ↔
      ∀ c ∈ text, IsWritable pairs c := by
  refine ⟨fun bytes text => decodeFrom_eq_some_iff, fun text => ?_⟩
  have hwritable : (tokens? pairs false text).isSome ↔ ∀ c ∈ text, IsWritable pairs c :=
    isSome_tokens?_iff
  rw [← hwritable, encode?]
  cases htokens : tokens? pairs false text with
  | none => simp
  | some tokens =>
    have hread : decodeWith pairs (tokens.flatMap Token.bytes) = some text :=
      decodeFrom_eq_some_iff.2 (standFor_of_tokens? htokens)
    simpa using hread

-- A `~` is read as the second byte of a pair before it is read as an escape.
example : decodeWith (fun _ _ => some '、') [0x7E, 0x7B, 0x21, 0x7E, 0x7E, 0x7D] = some ['、'] := by
  decide

end StyleCheck.Charset.Hz
