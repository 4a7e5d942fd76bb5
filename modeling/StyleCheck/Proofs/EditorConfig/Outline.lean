import StyleCheck.Proofs.EditorConfig.Lines
import StyleCheck.Proofs.EditorConfig.Properties

/-!
# What a whole file says

The lines of a file are a preamble and then one block for each header, up to the next one.

**Theorem (`parse_outline`).** A file cannot be read exactly if it has a malformed line, and then
the first of them is reported with its number. Otherwise its sections are its blocks: the pattern of
the header, and the properties that the assignments of the block collect, in which the last value of
a key wins and its first assignment gives it its place. The file is a root exactly if the last
assignment of `root` in the preamble is `true`.

The contents that belong to a preamble and blocks are `ofOutline`. One more line goes to the end of
the preamble, to the end of the last block, or starts a block, and `Contents.add` does the same to
the contents (`exists_add_ofOutline`); so the contents after any lines are those of their preamble
and blocks (`exists_foldl_eq_ofOutline`).
-/

namespace StyleCheck.EditorConfig

variable {key value : String}

/-! ## Preambles and blocks -/

/-- The key and the value that a line assigns. -/
def Line.assignment? : Line → Option (String × String)
  | .assignment key value => some (key, value)
  | _ => none

/-- Lines with no header among them. -/
structure Body where
  lines : List Line
  noHeader : ∀ pattern, .header pattern ∉ lines

namespace Body

/-- The assignments of the lines, in their order. -/
def assignments (body : Body) : Properties := body.lines.filterMap Line.assignment?

def empty : Body := ⟨[], by simp⟩

/-- One more line that is no header. -/
def push (body : Body) (line : Line) (h : ∀ pattern, line ≠ .header pattern) : Body where
  lines := body.lines ++ [line]
  noHeader pattern hmem := by
    rcases List.mem_append.1 hmem with hmem | hmem
    · exact body.noHeader pattern hmem
    · exact h pattern (List.mem_singleton.1 hmem).symm

theorem assignments_push (body : Body) (line : Line) (h : ∀ pattern, line ≠ .header pattern) :
    (body.push line h).assignments = body.assignments ++ line.assignment?.toList := by
  unfold assignments push
  rw [List.filterMap_append, List.filterMap_cons]
  cases line.assignment? <;> rfl

/-- The properties that the assignments set. -/
def properties (body : Body) : Properties := Properties.setAll [] body.assignments

theorem properties_push (body : Body) (line : Line) (h : ∀ pattern, line ≠ .header pattern) :
    (body.push line h).properties = body.properties.setAll line.assignment?.toList := by
  unfold properties
  rw [assignments_push, Properties.setAll_setAll]

end Body

/-- A header and the lines up to the next one. -/
structure Block where
  pattern : List Char
  body : Body

namespace Block

def lines (block : Block) : List Line := .header block.pattern :: block.body.lines

/-- The section that the block makes. -/
def toSection (block : Block) : Section := ⟨block.pattern, block.body.properties⟩

end Block

/-! ## The contents of an outline -/

namespace Contents

/-- The contents that belong to a preamble and blocks. -/
def ofOutline (preamble : Body) (blocks : List Block) : Contents where
  root := preamble.properties.value? "root" == some "true"
  sections := blocks.map Block.toSection

theorem setInLast_append (front : List Section) (last : Section) :
    setInLast key value (front ++ [last]) =
      front ++ [{ last with properties := last.properties.set key value }] := by
  induction front with
  | nil => rfl
  | cons first front ih =>
    cases front with
    | nil => rfl
    | cons second front => exact congrArg (first :: ·) ih

/-- Before the first header, a line goes to the preamble. -/
theorem add_preamble (preamble : Body) (line : Line) (h : ∀ pattern, line ≠ .header pattern) :
    (ofOutline preamble []).add line = ofOutline (preamble.push line h) [] := by
  unfold ofOutline
  rw [Body.properties_push]
  cases line with
  | nothing => rfl
  | header pattern => exact absurd rfl (h pattern)
  | assignment key value =>
    simp only [add, Line.assignment?, Option.toList, Properties.setAll, List.foldl,
      Properties.value?_set, List.map_nil, List.isEmpty_nil, if_true]
    by_cases hkey : key = "root"
    · simp [hkey]
    · have hkey' : "root" ≠ key := Ne.symm hkey
      simp [hkey, hkey']

theorem add_block (preamble : Body) (front : List Block) (last : Block) (line : Line)
    (h : ∀ pattern, line ≠ .header pattern) :
    (ofOutline preamble (front ++ [last])).add line =
      ofOutline preamble (front ++ [⟨last.pattern, last.body.push line h⟩]) := by
  unfold ofOutline
  simp only [List.map_append, List.map_cons, List.map_nil]
  cases line with
  | nothing =>
    simp [add, Block.toSection, Body.properties_push, Line.assignment?, Properties.setAll]
  | header pattern => exact absurd rfl (h pattern)
  | assignment key value =>
    simp [add, setInLast_append, Block.toSection, Body.properties_push, Line.assignment?,
      Properties.setAll]

theorem add_header (preamble : Body) (blocks : List Block) (pattern : List Char) :
    (ofOutline preamble blocks).add (.header pattern) =
      ofOutline preamble (blocks ++ [⟨pattern, .empty⟩]) := by
  simp [add, ofOutline, Block.toSection, Body.properties, Body.assignments, Body.empty,
    Properties.setAll]

/-- One more line is a line of the outline, in the same place. -/
theorem exists_add_ofOutline (preamble : Body) (blocks : List Block) (line : Line) :
    ∃ preamble' blocks',
      preamble.lines ++ blocks.flatMap Block.lines ++ [line] =
        preamble'.lines ++ blocks'.flatMap Block.lines ∧
      (ofOutline preamble blocks).add line = ofOutline preamble' blocks' := by
  by_cases hheader : ∃ pattern, line = .header pattern
  · obtain ⟨pattern, rfl⟩ := hheader
    refine ⟨preamble, blocks ++ [⟨pattern, .empty⟩], ?_, add_header preamble blocks pattern⟩
    simp [Block.lines, Body.empty]
  · have h : ∀ pattern, line ≠ .header pattern := not_exists.1 hheader
    cases blocks using List.reverseRecOn with
    | nil => exact ⟨preamble.push line h, [], by simp [Body.push], add_preamble preamble line h⟩
    | append_singleton front last =>
      refine ⟨preamble, front ++ [⟨last.pattern, last.body.push line h⟩], ?_,
        add_block preamble front last line h⟩
      simp [Block.lines, Body.push]

/-- **The contents after any lines** are those of their preamble and blocks. -/
theorem exists_foldl_eq_ofOutline (said : List Line) :
    ∃ preamble blocks, said = preamble.lines ++ blocks.flatMap Block.lines ∧
      said.foldl add {} = ofOutline preamble blocks := by
  induction said using List.reverseRecOn with
  | nil => exact ⟨.empty, [], rfl, rfl⟩
  | append_singleton said line ih =>
    obtain ⟨preamble, blocks, hlines, hcontents⟩ := ih
    obtain ⟨preamble', blocks', hlines', hcontents'⟩ :=
      exists_add_ofOutline preamble blocks line
    refine ⟨preamble', blocks', ?_, ?_⟩
    · rw [← hlines', ← hlines]
    · rw [List.foldl_append, hcontents]
      exact hcontents'

end Contents

/-! ## What assignments collect -/

/-- The properties that a list of assignments leaves. -/
structure Collects (assigned properties : Properties) : Prop where
  /-- Every key has one place and one value. -/
  distinct : properties.keys.Nodup
  /-- The last value of a key wins. -/
  last : ∀ key value, properties.value? key = some value ↔
    ∃ before after, assigned = before ++ (key, value) :: after ∧ ∀ entry ∈ after, entry.1 ≠ key
  /-- Of two keys, the one that was assigned first stands first. -/
  inOrder : properties.keys.Pairwise fun first second =>
    ∃ before value after, assigned = before ++ (first, value) :: after ∧
      ∀ entry ∈ before ++ [(first, value)], entry.1 ≠ second

theorem collects_setAll (assigned : Properties) :
    Collects assigned (Properties.setAll [] assigned) where
  distinct := Properties.nodup_setAll List.nodup_nil
  last _ _ := Properties.value?_setAll_eq_some
  inOrder := Properties.pairwise_setAll assigned

/-- The contents are those of the preamble and the blocks. -/
structure IsOutlined (contents : Contents) (preamble : Body) (blocks : List Block) : Prop where
  root : contents.root = true ↔
    ∃ before after, preamble.assignments = before ++ ("root", "true") :: after ∧
      ∀ entry ∈ after, entry.1 ≠ "root"
  sections : List.Forall₂ (fun block sec => sec.pattern = block.pattern ∧
    Collects block.body.assignments sec.properties) blocks contents.sections

theorem isOutlined_ofOutline (preamble : Body) (blocks : List Block) :
    IsOutlined (Contents.ofOutline preamble blocks) preamble blocks where
  root := by
    rw [Contents.ofOutline, beq_iff_eq]
    exact Properties.value?_setAll_eq_some
  sections := by
    refine List.forall₂_map_right_iff.2 (List.forall₂_same.2 ?_)
    intro block _
    exact ⟨rfl, collects_setAll _⟩

/-! ## Whole files -/

namespace Contents

/-- **What a file says.** -/
theorem parse_outline (text : List Char) :
    (∀ error, parse text = .error error ↔
      ∃ before line after, linesOf text = before ++ line :: after ∧
        error.line = before.length + 1 ∧ IsMalformed line error.fault ∧
        ∀ earlier ∈ before, ∀ fault, ¬ IsMalformed earlier fault) ∧
    ((∃ error, parse text = .error error) ↔
      ∃ line ∈ linesOf text, ∃ fault, IsMalformed line fault) ∧
    ∀ contents, parse text = .ok contents →
      ∃ said preamble blocks, List.Forall₂ Says (linesOf text) said ∧
        said = preamble.lines ++ blocks.flatMap Block.lines ∧
        IsOutlined contents preamble blocks := by
  rw [parse_eq]
  refine ⟨fun error => addLines_eq_error_iff, exists_addLines_eq_error_iff, ?_⟩
  intro contents hcontents
  obtain ⟨said, hsaid, rfl⟩ := addLines_eq_ok_iff.1 hcontents
  obtain ⟨preamble, blocks, hlines, heq⟩ := exists_foldl_eq_ofOutline said
  rw [heq]
  exact ⟨said, preamble, blocks, hsaid, hlines, isOutlined_ofOutline preamble blocks⟩

/-- A preamble that gives `root` twice, and a block that gives `a` twice. -/
theorem parse_outline_twice :
    parse "root=no\nRoot = TRUE\n[ *.rs ]\nA=B\nb=1\na = C".toList =
      .ok ⟨true, [⟨"*.rs".toList, [("a", "C"), ("b", "1")]⟩]⟩ ∧
    ∃ said preamble blocks,
      List.Forall₂ Says (linesOf "root=no\nRoot = TRUE\n[ *.rs ]\nA=B\nb=1\na = C".toList) said ∧
      said = preamble.lines ++ blocks.flatMap Block.lines ∧
      IsOutlined ⟨true, [⟨"*.rs".toList, [("a", "C"), ("b", "1")]⟩]⟩ preamble blocks :=
  ⟨rfl, (parse_outline _).2.2 _ rfl⟩

end Contents

end StyleCheck.EditorConfig
