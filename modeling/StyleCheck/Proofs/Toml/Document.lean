import StyleCheck.Proofs.Toml.Values

/-!
# Documents survive writing

**Theorem (`parse_document`).** A document of one setting per line, and behind it a table with
settings of its own, is read as the entries of the settings, if no key comes twice in a table.

A setting holds the text of a value and the value that the text shows. A line of a setting is read
in one step, and leaves the lines behind it (`Reads.line`), so the whole text is read as one
statement per line. Every statement then adds its entry at the end of the table in hand
(`build_settings`), which is the document at first and its last entry later.
-/

namespace StyleCheck.Toml

variable {c : Char} {key : String} {rest text : List Char} {statements : List Statement}

/-! ## Keys -/

/-- Whether the key is written without quotes. -/
def IsBare (key : String) : Prop := key.toList ≠ [] ∧ ∀ c ∈ key.toList, isBareKeyChar c

instance : DecidablePred IsBare := fun key =>
  decidable_of_iff (key.toList ≠ [] ∧ key.toList.all isBareKeyChar = true)
    (and_congr_right fun _ => List.all_eq_true)

theorem ne_of_isBareKeyChar {d : Char} (h : isBareKeyChar c) (hd : isBareKeyChar d = false) :
    c ≠ d := by
  rintro rfl
  rw [hd] at h
  cases h

theorem isTokenStart_of_isBareKeyChar (h : isBareKeyChar c) : isTokenStart c :=
  isTokenStart_iff.2 ⟨ne_of_isBareKeyChar h rfl, ne_of_isBareKeyChar h rfl,
    ne_of_isBareKeyChar h rfl, ne_of_isBareKeyChar h rfl, ne_of_isBareKeyChar h rfl⟩

theorem IsBare.append_ne {d : Char} {more : List Char} (hkey : IsBare key)
    (hd : isBareKeyChar d = false) : key.toList ++ rest ≠ d :: more := by
  intro h
  obtain ⟨c, cs, heq⟩ := List.exists_cons_of_ne_nil hkey.1
  rw [heq, List.cons_append] at h
  exact ne_of_isBareKeyChar (hkey.2 c (heq ▸ List.mem_cons_self)) hd (List.cons.inj h).1

theorem simpleKey?_append (hkey : IsBare key) (hc : isBareKeyChar c = false) :
    simpleKey? (key.toList ++ c :: rest) = some (key, c :: rest) := by
  have hrest : ∀ d ∈ (c :: rest).head?, isBareKeyChar d = false := fun d hd =>
    Option.some.inj hd ▸ hc
  have htake : (key.toList ++ c :: rest).takeWhile isBareKeyChar = key.toList :=
    (Text.span_append hkey.2 hrest).1
  unfold simpleKey?
  split
  next heq => exact absurd heq (hkey.append_ne rfl)
  next heq => exact absurd heq (hkey.append_ne rfl)
  · have hne : key ≠ "" := fun h => hkey.1 (h ▸ rfl)
    simp [htake, hne]

theorem key?_append {fuel : Nat} {d : Char} {more : List Char} (hkey : IsBare key)
    (hc : isBareKeyChar c = false) (hnext : skipBlanks (c :: rest) = d :: more) (hd : d ≠ '.') :
    key? (fuel + 1) (key.toList ++ c :: rest) = some ([key], d :: more) := by
  simp only [key?, simpleKey?_append hkey hc, hnext, Option.bind_eq_bind, Option.bind_some]
  split
  next heq => exact absurd (List.cons.inj heq).1 hd
  · rfl

theorem IsBare.startsToken (hkey : IsBare key) : StartsToken key.toList := by
  obtain ⟨c, cs, heq⟩ := List.exists_cons_of_ne_nil hkey.1
  exact ⟨c, cs, heq, isTokenStart_of_isBareKeyChar (hkey.2 c (heq ▸ List.mem_cons_self))⟩

/-! ## Lines -/

/-- An option as a line shows it. -/
structure Setting where
  key : String
  /-- The text between the equals sign and the end of the line. -/
  text : String
  /-- What the text is read as. -/
  value : Value
  isBare : IsBare key
  shows : Shows text.toList value

namespace Setting

/-- The line of the option. -/
def line (setting : Setting) : String := setting.key ++ " = " ++ setting.text ++ "\n"

/-- The statement that the line is. -/
def statement (setting : Setting) : Statement := .assignment [setting.key] setting.value

/-- What the line adds to a table. -/
def entry (setting : Setting) : String × Value := (setting.key, setting.value)

theorem toList_line_append (setting : Setting) (rest : List Char) :
    setting.line.toList ++ rest =
      setting.key.toList ++ ' ' :: '=' :: ' ' :: (setting.text.toList ++ '\n' :: rest) := by
  simp [line]

end Setting

theorem statement?_line {fuel : Nat} (setting : Setting)
    (hfuel : setting.text.toList.length < fuel) :
    statement? fuel (setting.line.toList ++ rest) = some (setting.statement, rest) := by
  obtain ⟨fuel, rfl⟩ := Nat.exists_eq_add_one.2 (Nat.zero_lt_of_lt hfuel)
  have hblank : ∀ more, skipBlanks (' ' :: more) = skipBlanks more := fun more => rfl
  have hequals : ∀ more, skipBlanks ('=' :: more) = '=' :: more := fun more => rfl
  have hkey : key? (fuel + 1) (setting.line.toList ++ rest) =
      some ([setting.key], '=' :: ' ' :: (setting.text.toList ++ '\n' :: rest)) := by
    rw [setting.toList_line_append]
    exact key?_append setting.isBare rfl rfl (by decide)
  have hvalue := setting.shows (fuel + 1) rest (Nat.le_of_lt hfuel)
  have hend : endLine? ('\n' :: rest) = some rest := rfl
  unfold statement?
  split
  next heq =>
    rw [setting.toList_line_append] at heq
    exact absurd heq (setting.isBare.append_ne rfl)
  · simp only [hkey, hblank, hequals, hvalue, hend, Option.bind_eq_bind, Option.bind_some]
    rfl

theorem statement?_header {fuel : Nat} (hkey : IsBare key) (hfuel : 0 < fuel) :
    statement? fuel ('[' :: (key.toList ++ ']' :: '\n' :: rest)) = some (.header [key], rest) := by
  obtain ⟨fuel, rfl⟩ := Nat.exists_eq_add_one.2 hfuel
  have hclosing : ∀ more, skipBlanks (']' :: more) = ']' :: more := fun more => rfl
  have hpath : key? (fuel + 1) (key.toList ++ ']' :: '\n' :: rest) =
      some ([key], ']' :: '\n' :: rest) := key?_append hkey rfl rfl (by decide)
  have hend : endLine? ('\n' :: rest) = some rest := rfl
  simp only [statement?, hkey.startsToken.skipBlanks_append, hpath, hclosing, hend,
    Option.bind_eq_bind, Option.bind_some]
  rfl

/-- The text is read as the statements, whatever bounds the number of steps. -/
def Reads (text : List Char) (statements : List Statement) : Prop :=
  ∀ fuel, text.length < fuel → statements? fuel text = some statements

namespace Reads

theorem nil : Reads [] [] := by
  intro fuel hfuel
  obtain ⟨fuel, rfl⟩ := Nat.exists_eq_add_one.2 (Nat.zero_lt_of_lt hfuel)
  rfl

/-- One statement takes some of the text and one step. -/
theorem cons {start : List Char} {statement : Statement}
    (hstart : skipFiller false text = start) (hne : start ≠ [])
    (hlength : rest.length < text.length)
    (hstatement : ∀ fuel, text.length ≤ fuel → statement? fuel start = some (statement, rest))
    (h : Reads rest statements) : Reads text (statement :: statements) := by
  intro fuel hfuel
  obtain ⟨c, start, rfl⟩ := List.exists_cons_of_ne_nil hne
  obtain ⟨fuel, rfl⟩ := Nat.exists_eq_add_one.2 (Nat.zero_lt_of_lt hfuel)
  have hfuel := Nat.le_of_lt_succ hfuel
  simp only [statements?, hstart, hstatement fuel hfuel, h fuel (Nat.lt_of_lt_of_le hlength hfuel),
    Option.bind_eq_bind, Option.bind_some]
  rfl

/-- **The line of a setting is its statement.** -/
theorem line (setting : Setting) (h : Reads rest statements) :
    Reads (setting.line.toList ++ rest) (setting.statement :: statements) := by
  have hlength : (setting.line.toList ++ rest).length =
      setting.key.toList.length + setting.text.toList.length + rest.length + 4 := by
    rw [setting.toList_line_append]
    simp only [List.length_append, List.length_cons]
    omega
  have hstart : skipFiller false (setting.line.toList ++ rest) = setting.line.toList ++ rest := by
    rw [setting.toList_line_append]
    exact setting.isBare.startsToken.skipFiller_append _
  refine cons hstart ?_ (by omega) (fun fuel hfuel => statement?_line setting (by omega)) h
  exact List.ne_nil_of_length_pos (by omega)

theorem lines (settings : List Setting) (h : Reads rest statements) :
    Reads ((String.join (settings.map Setting.line)).toList ++ rest)
      (settings.map Setting.statement ++ statements) := by
  induction settings with
  | nil => exact h
  | cons setting settings ih =>
    rw [List.map_cons, String.join_cons, String.toList_append, List.append_assoc]
    exact line setting ih

theorem header (hkey : IsBare key) (h : Reads rest statements) :
    Reads ('\n' :: '[' :: (key.toList ++ ']' :: '\n' :: rest)) (.header [key] :: statements) := by
  have hstart : skipFiller false ('\n' :: '[' :: (key.toList ++ ']' :: '\n' :: rest)) =
      '[' :: (key.toList ++ ']' :: '\n' :: rest) := rfl
  refine cons hstart (by simp) ?_ (fun fuel hfuel => statement?_header hkey ?_) h
  · simp only [List.length_append, List.length_cons]
    omega
  · exact Nat.lt_of_lt_of_le (Nat.succ_pos _) hfuel

end Reads

theorem parse_of_reads (h : Reads text statements) (hmark : ∀ more, text ≠ '\uFEFF' :: more) :
    parse text = build [] [] statements := by
  have hread := h (text.length + 2) (by omega)
  simp only [parse, hread]

/-! ## Tables -/

theorem assign_append {entries : Entries} {value : Value} (h : key ∉ entries.map Prod.fst) :
    assign value [key] entries = .ok (entries ++ [(key, value)]) := by
  have hlookup : entries.lookup key = none := List.lookup_eq_none_iff.2 fun entry hentry =>
    bne_iff_ne.2 fun heq => h (List.mem_map.2 ⟨entry, hentry, heq.symm⟩)
  simp [assign, hlookup]

theorem changeTable_append {change : Option (Origin × Entries) → Except Fault (Origin × Entries)}
    {entries : Entries} (h : key ∉ entries.map Prod.fst) (more : Entries) :
    changeTable key change (entries ++ more) =
      (changeTable key change more).map (entries ++ ·) := by
  induction entries with
  | nil =>
    rw [List.nil_append]
    cases changeTable key change more <;> rfl
  | cons entry entries ih =>
    obtain ⟨k, value⟩ := entry
    obtain ⟨hne, h⟩ := not_or.1 (mt List.mem_cons.2 h)
    rw [List.cons_append, changeTable.eq_def]
    simp only [if_neg (Ne.symm hne), ih h]
    cases changeTable key change more <;> rfl

/-- **Settings are added one after the other** to the table in hand, which stands in the document
as `place` says. -/
theorem build_settings (current : List String) (place : Entries → Entries)
    (hplace : ∀ {change : Entries → Except Fault Entries} {before after : Entries},
      change before = .ok after → changeAt change current (place before) = .ok (place after))
    {settings : List Setting} {entries : Entries}
    (hkeys : (entries.map Prod.fst ++ settings.map Setting.key).Nodup) :
    build current (place entries) (settings.map Setting.statement ++ statements) =
      build current (place (entries ++ settings.map Setting.entry)) statements := by
  induction settings generalizing entries with
  | nil => rw [List.map_nil, List.map_nil, List.nil_append, List.append_nil]
  | cons setting settings ih =>
    have hkeys' : ((entries ++ [setting.entry]).map Prod.fst ++
        settings.map Setting.key).Nodup := by
      simpa [Setting.entry] using hkeys
    have hnew : setting.key ∉ entries.map Prod.fst := fun h =>
      (List.nodup_append.1 hkeys).2.2 _ h _ List.mem_cons_self rfl
    -- The key is new, so the setting goes to the end of its table.
    have hset : changeAt (assign setting.value [setting.key]) current (place entries) =
        .ok (place (entries ++ [setting.entry])) := hplace (assign_append hnew)
    rw [List.map_cons, List.cons_append, Setting.statement, build, hset]
    show build current (place (entries ++ [setting.entry])) _ = _
    rw [ih hkeys', List.append_assoc]
    rfl

theorem build_header {current : List String} {entries : Entries} (h : key ∉ entries.map Prod.fst) :
    build current entries (.header [key] :: statements) =
      build [key] (entries ++ [(key, .table .header [])]) statements := by
  have hopen : openTable [key] entries = .ok (entries ++ [(key, .table .header [])]) := by
    rw [openTable, ← List.append_nil entries, changeTable_append h, List.append_nil]
    rfl
  rw [build, hopen]
  rfl

theorem changeAt_last {change : Entries → Except Fault Entries} {entries before after : Entries}
    (h : key ∉ entries.map Prod.fst) (hchange : change before = .ok after) :
    changeAt change [key] (entries ++ [(key, .table .header before)]) =
      .ok (entries ++ [(key, .table .header after)]) := by
  have htable : ∀ step : Option (Origin × Entries) → Except Fault (Origin × Entries),
      step (some (.header, before)) = .ok (.header, after) →
        changeTable key step [(key, .table .header before)] =
          .ok [(key, .table .header after)] := by
    intro step hstep
    rw [changeTable, if_pos rfl, hstep]
    rfl
  rw [changeAt, changeTable_append h, htable]
  · rfl
  · simp only [changeAt, hchange]
    rfl

/-! ## Main result -/

/-- The text of a document: settings, and a table of further settings. -/
def document (settings : List Setting) (table : String) (switches : List Setting) : String :=
  String.join (settings.map Setting.line ++ ["\n[" ++ table ++ "]\n"] ++ switches.map Setting.line)

theorem reads_document (settings switches : List Setting) (hkey : IsBare key) :
    Reads (document settings key switches).toList
      (settings.map Setting.statement ++ .header [key] :: switches.map Setting.statement) := by
  have hswitches := Reads.lines switches Reads.nil
  have hsettings := Reads.lines settings (Reads.header hkey hswitches)
  simpa [document] using hsettings

theorem document_ne (settings switches : List Setting) (more : List Char) :
    (document settings key switches).toList ≠ '\uFEFF' :: more := by
  cases settings with
  | nil => simp [document]
  | cons setting settings =>
    have heq : document (setting :: settings) key switches =
        setting.line ++ document settings key switches := by
      simp [document]
    rw [heq, String.toList_append, setting.toList_line_append]
    exact setting.isBare.append_ne rfl

/-- **A document that was written is read back.** -/
theorem parse_document {settings switches : List Setting} (hkey : IsBare key)
    (hsettings : (settings.map Setting.key ++ [key]).Nodup)
    (hswitches : (switches.map Setting.key).Nodup) :
    parse (document settings key switches).toList =
      .ok (settings.map Setting.entry ++ [(key, .table .header (switches.map Setting.entry))]) := by
  have hkeys : settings.map Setting.key = (settings.map Setting.entry).map Prod.fst := by
    rw [List.map_map]
    rfl
  have hnew : key ∉ (settings.map Setting.entry).map Prod.fst := fun h =>
    (List.nodup_append.1 hsettings).2.2 _ (hkeys ▸ h) _ List.mem_cons_self rfl
  calc parse (document settings key switches).toList
      = build [] [] (settings.map Setting.statement ++
          .header [key] :: switches.map Setting.statement) :=
        parse_of_reads (reads_document settings switches hkey) (document_ne settings switches)
    _ = build [] (settings.map Setting.entry)
          (.header [key] :: switches.map Setting.statement) := by
        refine build_settings [] (fun entries => entries) (fun h => h) ?_
        rw [List.map_nil, List.nil_append]
        exact (List.nodup_append.1 hsettings).1
    _ = build [key] (settings.map Setting.entry ++ [(key, .table .header [])])
          (switches.map Setting.statement ++ []) := by
        rw [build_header hnew, List.append_nil]
    _ = build [key] (settings.map Setting.entry ++
          [(key, .table .header (switches.map Setting.entry))]) [] := by
        refine build_settings [key]
          (fun inner => settings.map Setting.entry ++ [(key, .table .header inner)])
          (changeAt_last hnew) ?_
        rwa [List.map_nil, List.nil_append]
    _ = .ok (settings.map Setting.entry ++
          [(key, .table .header (switches.map Setting.entry))]) := rfl

end StyleCheck.Toml
