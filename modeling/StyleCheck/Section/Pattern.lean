import StyleCheck.Text.Basic

/-!
# Section patterns

The pattern language of section headers, as a tree.

- `\c` is the character `c`; `?` is one character and `*` any number of characters other than
  `/`; `**/` is any number of directories and any other `**` is any text.
- `[…]` is one character of a set. A set ends at the first `]` that does not directly follow its
  start and contains no `/`.
- `{a,b}` is one of its parts, split at the commas outside inner braces. `{n..m}` with two
  integers is an integer between them. A single part stands between literal braces.
- Every other character is itself, an unbalanced bracket or brace included.

`parse` is total. Its recursion goes into the parts of a brace group, which are shorter than the
text they are cut from (`length_braceBody?`, `length_of_mem_parts`).
-/

namespace StyleCheck.Section

/-- A piece of a section pattern. -/
inductive Piece
  | char (c : Char)
  | one
  | star
  | anything
  | directories
  | bracket (negated : Bool) (body : List Char)
  | range (low high : Int)
  | either (parts : List (List Piece))

/-- A section pattern: its pieces from left to right. -/
abbrev Pattern := List Piece

/-! ## Brackets -/

/-- The text up to a closing bracket and the text after it. No `/` comes before the bracket. -/
def upToBracket? : List Char → Option (List Char × List Char)
  | [] => none
  | c :: rest =>
    if c = ']' then some ([], rest)
    else if c = '/' then none
    else (upToBracket? rest).map fun (body, after) => (c :: body, after)

theorem length_upToBracket? {cs body after : List Char}
    (h : upToBracket? cs = some (body, after)) : body.length + after.length < cs.length := by
  induction cs generalizing body with
  | nil => simp [upToBracket?] at h
  | cons c rest ih =>
    simp only [upToBracket?] at h
    split at h
    · grind
    · split at h
      · simp at h
      · obtain ⟨⟨b, a⟩, hb, hab⟩ := Option.map_eq_some_iff.1 h
        simp only [Prod.mk.injEq] at hab
        obtain ⟨rfl, rfl⟩ := hab
        have := ih hb
        simp only [List.length_cons]
        omega

/-- A bracket set cut off a text that follows an opening bracket: whether it is negated, what it
lists, and the text after it. A closing bracket that comes first is listed. -/
def bracket? (cs : List Char) : Option (Bool × List Char × List Char) :=
  let (negated, listed) := match cs with
    | '!' :: rest | '^' :: rest => (true, rest)
    | _ => (false, cs)
  match listed with
  | ']' :: rest => (upToBracket? rest).map fun (body, after) => (negated, ']' :: body, after)
  | _ => (upToBracket? listed).map fun (body, after) => (negated, body, after)

theorem length_bracket? {cs body after : List Char} {negated : Bool}
    (h : bracket? cs = some (negated, body, after)) : after.length < cs.length := by
  have key : ∀ listed : List Char, listed.length ≤ cs.length →
      (∀ n : Bool, (match listed with
        | ']' :: rest => (upToBracket? rest).map fun (body, after) => (n, ']' :: body, after)
        | _ => (upToBracket? listed).map fun (body, after) => (n, body, after)) =
          some (negated, body, after) → after.length < cs.length) := by
    intro listed hl n hn
    split at hn
    · obtain ⟨⟨b, a⟩, hb, hab⟩ := Option.map_eq_some_iff.1 hn
      simp only [Prod.mk.injEq] at hab
      obtain ⟨_, _, rfl⟩ := hab
      have := length_upToBracket? hb
      simp only [List.length_cons] at hl
      omega
    · obtain ⟨⟨b, a⟩, hb, hab⟩ := Option.map_eq_some_iff.1 hn
      simp only [Prod.mk.injEq] at hab
      obtain ⟨_, _, rfl⟩ := hab
      have := length_upToBracket? hb
      omega
  unfold bracket? at h
  split at h
  rename_i n listed hmatch
  refine key listed ?_ n h
  split at hmatch <;> simp only [Prod.mk.injEq] at hmatch <;> obtain ⟨_, rfl⟩ := hmatch <;> simp

/-! ## Braces -/

/-- The body of a brace group, cut off a text that follows its opening brace with `depth` inner
groups open, and the text after the group. A backslash hides the character after it. -/
def braceBody? : (depth : Nat) → List Char → Option (List Char × List Char)
  | _, [] => none
  | _, ['\\'] => none
  | depth, '\\' :: c :: rest =>
    (braceBody? depth rest).map fun (body, after) => ('\\' :: c :: body, after)
  | depth, '{' :: rest => (braceBody? (depth + 1) rest).map fun (body, after) => ('{' :: body, after)
  | 0, '}' :: rest => some ([], rest)
  | depth + 1, '}' :: rest => (braceBody? depth rest).map fun (body, after) => ('}' :: body, after)
  | depth, c :: rest => (braceBody? depth rest).map fun (body, after) => (c :: body, after)

theorem length_braceBody? {depth : Nat} {cs body after : List Char}
    (h : braceBody? depth cs = some (body, after)) : body.length + after.length < cs.length := by
  fun_induction braceBody? depth cs generalizing body
  case case1 | case2 => simp at h
  case case5 => simp only [Option.some.injEq, Prod.mk.injEq] at h; grind
  all_goals
    rename_i ih
    obtain ⟨⟨b, a⟩, hb, hab⟩ := Option.map_eq_some_iff.1 h
    simp only [Prod.mk.injEq] at hab
    obtain ⟨rfl, rfl⟩ := hab
    have := ih hb
    simp only [List.length_cons]
    omega

/-- Put characters in front of the first part. -/
def prepend (chars : List Char) : List (List Char) → List (List Char)
  | [] => [chars]
  | part :: more => (chars ++ part) :: more

/-- The parts of a brace body between the commas outside inner groups, of which `depth` are
open. -/
def parts : (depth : Nat) → List Char → List (List Char)
  | _, [] => [[]]
  | depth, '\\' :: c :: rest => prepend ['\\', c] (parts depth rest)
  | depth, '{' :: rest => prepend ['{'] (parts (depth + 1) rest)
  | depth, '}' :: rest => prepend ['}'] (parts (depth - 1) rest)
  | 0, ',' :: rest => [] :: parts 0 rest
  | depth, c :: rest => prepend [c] (parts depth rest)

theorem length_of_mem_prepend {chars part : List Char} {list : List (List Char)} {bound : Nat}
    (hlist : ∀ p ∈ list, p.length ≤ bound) (h : part ∈ prepend chars list) :
    part.length ≤ chars.length + bound := by
  cases list with
  | nil => simp only [prepend, List.mem_singleton] at h; subst h; omega
  | cons p more =>
    simp only [prepend, List.mem_cons] at h
    rcases h with rfl | h
    · simpa using hlist p (by simp)
    · have := hlist part (by simp [h]); omega

theorem length_of_mem_parts {depth : Nat} {cs part : List Char} (h : part ∈ parts depth cs) :
    part.length ≤ cs.length := by
  fun_induction parts depth cs generalizing part
  case case1 => simp at h; simp [h]
  case case5 rest ih =>
    simp only [List.mem_cons] at h
    rcases h with rfl | h
    · simp
    · have := ih h; simp only [List.length_cons]; omega
  all_goals
    rename_i ih
    have := length_of_mem_prepend (fun _ hp => ih hp) h
    simp only [List.length_cons, List.length_nil] at this ⊢
    omega

/-- The two integers of a brace body `n..m`. -/
def integers? (body : List Char) : Option (Int × Int) :=
  match Text.cutAtWord ['.', '.'] body with
  | none => none
  | some (low, high) =>
    match Text.integer? low, Text.integer? high with
    | some n, some m => some (n, m)
    | _, _ => none

/-! ## Reading a pattern -/

/-- The pieces of a pattern. -/
def parse : List Char → Pattern
  | [] => []
  | '\\' :: c :: rest => .char c :: parse rest
  | '*' :: '*' :: '/' :: rest => .directories :: parse rest
  | '*' :: '*' :: rest => .anything :: parse rest
  | '*' :: rest => .star :: parse rest
  | '?' :: rest => .one :: parse rest
  | '[' :: rest =>
    match _h : bracket? rest with
    | some (negated, body, after) => .bracket negated body :: parse after
    | none => .char '[' :: parse rest
  | '{' :: rest =>
    match _h : braceBody? 0 rest with
    | some (body, after) =>
      let group : Pattern := match integers? body with
        | some (n, m) => [.range (min n m) (max n m)]
        | none =>
          if (parts 0 body).length < 2 then .char '{' :: parse body ++ [.char '}']
          else [.either ((parts 0 body).attach.map fun ⟨part, _⟩ => parse part)]
      group ++ parse after
    | none => .char '{' :: parse rest
  | c :: rest => .char c :: parse rest
termination_by cs => cs.length
decreasing_by
  all_goals simp only [List.length_cons]
  all_goals try omega
  · have := length_bracket? _h; omega
  · have := length_braceBody? _h; omega
  · rename_i hmem; have := length_braceBody? _h; have := length_of_mem_parts hmem; omega
  · have := length_braceBody? _h; omega

/-- The pattern that a header means. A header with a `/` is relative to the directory of its
file, with or without a leading `/`; any other header applies in every directory below. -/
def ofHeader (header : List Char) : Pattern :=
  if '/' ∈ header then
    parse (match header with
      | '/' :: rest => rest
      | _ => header)
  else parse ('*' :: '*' :: '/' :: header)

end StyleCheck.Section
