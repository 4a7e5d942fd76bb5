import StyleCheck.EditorConfig.File
import StyleCheck.Proofs.Text.Split
import StyleCheck.Proofs.Text.Trim

/-!
# The grammar of a line

What a line says is a matter of the line without the blanks around it. `Says` lists the well-formed
lines and what they say, `IsMalformed` the malformed ones and what is wrong with them. Reading a
line decides the two: it succeeds with what the line says (`read_eq_ok_iff`) and fails with what is
wrong with it (`IsMalformed.read_eq`), so every line is one of the two and never both.
-/

namespace StyleCheck.EditorConfig

/-- **The well-formed lines** and what they say. A comment starts with `#` or `;`, a header starts
with `[` and ends in `]`, and an assignment has something before its first `=`. Keys are in lower
case, and so are the values of the known ones. -/
inductive Says (line : List Char) : Line → Prop
  | blank : Text.trim line = [] → Says line .nothing
  | comment {c : Char} {rest : List Char} :
    Text.trim line = c :: rest → c ∈ ['#', ';'] → Says line .nothing
  | header {inner : List Char} :
    Text.trim line = '[' :: (inner ++ [']']) → Says line (.header (Text.trim inner))
  | assignment {c : Char} {front after : List Char} {key value : String} :
    Text.trim line = c :: (front ++ '=' :: after) → c ∉ ['#', ';', '[', '='] → '=' ∉ front →
    key.toList = Text.lower (Text.trim (c :: front)) →
    value.toList = (if key ∈ knownKeys then Text.lower (Text.trim after) else Text.trim after) →
    Says line (.assignment key value)

/-- **The malformed lines** and what is wrong with them. -/
inductive IsMalformed (line : List Char) : LineFault → Prop
  | header {rest : List Char} :
    Text.trim line = '[' :: rest → rest.getLast? ≠ some ']' → IsMalformed line .unterminatedHeader
  | noEqualsSign {c : Char} {rest : List Char} :
    Text.trim line = c :: rest → c ∉ ['#', ';', '['] → '=' ∉ c :: rest →
    IsMalformed line .noEqualsSign
  | noName {after : List Char} : Text.trim line = '=' :: after → IsMalformed line .noName

variable {line other : List Char} {said : Line} {fault : LineFault}

/-! ## Reading -/

theorem assign_eq_ok {before after : List Char} {key value : String}
    (hbefore : Text.trim before ≠ [])
    (hkey : key.toList = Text.lower (Text.trim before))
    (hvalue : value.toList =
      (if key ∈ knownKeys then Text.lower (Text.trim after) else Text.trim after)) :
    Line.assign before after = .ok (.assignment key value) := by
  have hname : (Text.lower (Text.trim before)).isEmpty = false := by
    simpa using Text.lower_ne_nil hbefore
  have hkey : String.ofList (Text.lower (Text.trim before)) = key := by
    rw [← hkey, String.ofList_toList]
  unfold Line.assign
  simp only [hname, Bool.false_eq_true, if_false, hkey, List.contains_iff_mem]
  rw [← hvalue, String.ofList_toList]

theorem read_congr (h : Text.trim line = Text.trim other) : Line.read line = Line.read other := by
  unfold Line.read
  rw [h]

theorem read_of_bracket {rest : List Char} (h : Text.trim line = '[' :: rest) :
    Line.read line =
      if rest.getLast? = some ']' then .ok (.header (Text.trim rest.dropLast))
      else .error .unterminatedHeader := by
  rw [Line.read, h]
  by_cases hlast : rest.getLast? = some ']'
  · simp [hlast]
  · simp [hlast]

theorem read_of_trim {c : Char} {rest : List Char} (h : Text.trim line = c :: rest)
    (hc : c ∉ ['#', ';', '[']) :
    Line.read line =
      (Text.cutAt '=' (c :: rest)).elim (.error .noEqualsSign)
        fun cut => Line.assign cut.1 cut.2 := by
  simp only [List.mem_cons, List.not_mem_nil, or_false, not_or] at hc
  unfold Line.read
  rw [h]
  cases hcut : Text.cutAt '=' (c :: rest) with
  | none => simp [hc, hcut]
  | some cut => simp [hc, hcut]

theorem Says.read_eq (h : Says line said) : Line.read line = .ok said := by
  cases h with
  | blank htrim => rw [Line.read, htrim]
  | comment htrim hc =>
    rw [Line.read, htrim]
    rcases List.mem_cons.1 hc with rfl | hc
    · rfl
    · rw [List.mem_singleton.1 hc]
      rfl
  | header htrim =>
    simp [read_of_bracket htrim]
  | @assignment c front after key value htrim hc hfront hkey hvalue =>
    have hstart : c ∉ ['#', ';', '['] := by
      intro hmem
      exact hc (List.mem_append_left ['='] hmem)
    have hbefore : '=' ∉ c :: front := by
      rw [List.mem_cons, not_or]
      exact ⟨fun heq => hc (by simp [← heq]), hfront⟩
    have hcut : Text.cutAt '=' (c :: (front ++ '=' :: after)) = some (c :: front, after) :=
      Text.cutAt_append_cons hbefore
    have hname : Text.trim (c :: front) ≠ [] := by
      rw [Text.trim_cons (Text.isBlank_of_trim htrim)]
      exact List.cons_ne_nil _ _
    rw [read_of_trim htrim hstart, hcut]
    exact assign_eq_ok hname hkey hvalue

theorem IsMalformed.read_eq (h : IsMalformed line fault) : Line.read line = .error fault := by
  cases h with
  | header htrim hlast => rw [read_of_bracket htrim, if_neg hlast]
  | noEqualsSign htrim hstart hequals =>
    rw [read_of_trim htrim hstart, Text.cutAt_eq_none hequals]
    rfl
  | @noName after htrim =>
    rw [read_of_trim htrim (by decide)]
    simp [Text.cutAt, Line.assign, Text.trim, Text.trimStart, Text.trimEnd, Text.lower,
      Text.lowerAfter]

/-- All that a line can be: a case for each start of the trimmed line. -/
theorem says_or_isMalformed (line : List Char) :
    (∃ said, Says line said) ∨ ∃ fault, IsMalformed line fault := by
  cases htrim : Text.trim line with
  | nil => exact .inl ⟨_, .blank htrim⟩
  | cons c rest =>
    by_cases hcomment : c ∈ ['#', ';']
    · exact .inl ⟨_, .comment htrim hcomment⟩
    by_cases hheader : c = '['
    · subst hheader
      by_cases hlast : rest.getLast? = some ']'
      · obtain ⟨inner, rfl⟩ := List.getLast?_eq_some_iff.1 hlast
        exact .inl ⟨_, .header htrim⟩
      · exact .inr ⟨_, .header htrim hlast⟩
    have hstart : c ∉ ['#', ';', '['] := by
      simp_all
    by_cases hname : c = '='
    · subst hname
      exact .inr ⟨_, .noName htrim⟩
    by_cases hequals : '=' ∈ rest
    · obtain ⟨front, after, rfl, hfront⟩ := List.eq_append_cons_of_mem hequals
      refine .inl ⟨_, .assignment htrim ?_ hfront (String.toList_ofList) (String.toList_ofList)⟩
      simp_all
    · have hnone : '=' ∉ c :: rest := by
        rw [List.mem_cons, not_or]
        exact ⟨Ne.symm hname, hequals⟩
      exact .inr ⟨_, .noEqualsSign htrim hstart hnone⟩

/-- **Reading succeeds on the well-formed lines**, with what they say. -/
theorem read_eq_ok_iff : Line.read line = .ok said ↔ Says line said := by
  constructor
  · intro h
    rcases says_or_isMalformed line with ⟨other, hsaid⟩ | ⟨fault, hfault⟩
    · rw [hsaid.read_eq] at h
      cases h
      exact hsaid
    · rw [hfault.read_eq] at h
      cases h
  · exact Says.read_eq

/-! ## One reading for every line -/

theorem Says.unique {first second : Line} (h : Says line first) (h' : Says line second) :
    first = second :=
  Except.ok.inj (h.read_eq.symm.trans h'.read_eq)

theorem IsMalformed.unique {first second : LineFault} (h : IsMalformed line first)
    (h' : IsMalformed line second) : first = second :=
  Except.error.inj (h.read_eq.symm.trans h'.read_eq)

theorem Says.not_isMalformed (h : Says line said) (fault : LineFault) :
    ¬ IsMalformed line fault := by
  intro h'
  cases h.read_eq.symm.trans h'.read_eq

end StyleCheck.EditorConfig
