/-!
# Regular expressions with ordered choice

Expressions over an alphabet `σ`, in which a repetition prefers more copies and a choice prefers
its first branch. Of all ways to match a text the *first* one in this order is the one whose
captures are reported, so whether a match exists does not depend on the order, but what its
groups stand for does.

A match is computed from the right. A `Table` holds, for each suffix of the text, the first way in
which the rest of the expression matches that suffix; an expression turns the table of what
follows it into its own. Every node of the expression therefore costs one pass over the text,
however many ways of matching there are.
-/

namespace StyleCheck

/-- Expressions with ordered choice. Groups are numbered from left to right by where they open. -/
inductive Regex (σ : Type)
  /-- Nothing. -/
  | empty
  /-- One symbol of a set. -/
  | one (set : σ → Bool)
  /-- As many blocks of `size` symbols of a set as possible, possibly none. -/
  | blocks (set : σ → Bool) (size : Nat)
  /-- Nothing, at the end of the text only. -/
  | atEnd
  /-- One after the other. -/
  | seq (first second : Regex σ)
  /-- The first, or else the second. -/
  | alt (first second : Regex σ)
  /-- A part whose text is reported. -/
  | group (body : Regex σ)

namespace Regex

variable {σ : Type}

/-- As many symbols of a set as possible. -/
def many (set : σ → Bool) : Regex σ := .blocks set 1

/-- At least one symbol of a set, and as many as possible. -/
def many1 (set : σ → Bool) : Regex σ := .seq (.one set) (many set)

/-- The expression, or else nothing. -/
def optional (body : Regex σ) : Regex σ := .alt body .empty

/-- One given symbol. -/
def symbol [BEq σ] (c : σ) : Regex σ := .one (· == c)

/-- One after the other. -/
def sequence : List (Regex σ) → Regex σ
  | [] => .empty
  | r :: rs => .seq r (sequence rs)

/-- The first of the expressions that matches; none of none. -/
def choice : List (Regex σ) → Regex σ
  | [] => .one fun _ => false
  | [r] => r
  | r :: rs => .alt r (choice rs)

/-- The number of groups. -/
def groups : Regex σ → Nat
  | .empty | .one _ | .blocks _ _ | .atEnd => 0
  | .seq a b | .alt a b => a.groups + b.groups
  | .group a => a.groups + 1

/-! ## Tables -/

/-- One entry per suffix of a text, the whole text first and the empty suffix last. -/
abbrev Table (α : Type) := List (Option α)

namespace Table

variable {α : Type}

/-- Read one symbol of `set`, then go on as the table says. -/
def consume (set : σ → Bool) : List σ → Table α → Table α
  | c :: cs, _ :: ks => (if set c then ks.head?.join else none) :: consume set cs ks
  | _, _ => [none]

/-- Read blocks of `size` symbols of `set`, as many as possible, then go on as the table says.
The number beside the table is how many symbols of `set` the text starts with. -/
def repeated (set : σ → Bool) (size : Nat) : List σ → Table α → Nat × Table α
  | c :: cs, k :: ks =>
    let (run, rest) := repeated set size cs ks
    let run := if set c then run + 1 else 0
    let again := if 0 < size ∧ size ≤ run then (rest.drop (size - 1)).head?.join else none
    (run, again.or k :: rest)
  | _, table => (0, table)

/-- Go on at the empty suffix only. -/
def atEnd : Table α → Table α
  | [] => []
  | [k] => [k]
  | _ :: ks => none :: atEnd ks

/-- Go on as the first table says, or else as the second. -/
def orElse (first second : Table α) : Table α := List.zipWith Option.or first second

end Table

/-- The text that a group stood for. -/
structure Capture (σ : Type) where
  group : Nat
  text : List σ

/-- What is known of a match: the captures, and what the rest of the computation needs. -/
abbrev Found (σ α : Type) := List (Capture σ) × α

/-- Note at each suffix where it starts. -/
def stamp {α : Type} (table : Table (Found σ α)) : Table (Found σ (Nat × α)) :=
  table.zipIdx.map fun (entry, i) => entry.map fun (captures, x) => (captures, (i, x))

/-- Report the text between a suffix and the noted one as the capture of a group. -/
def capture {α : Type} (text : List σ) (group : Nat) (table : Table (Found σ (Nat × α))) :
    Table (Found σ α) :=
  table.zipIdx.map fun (entry, i) => entry.map fun (captures, (stop, x)) =>
    (⟨group, (text.drop i).take (stop - i)⟩ :: captures, x)

/-- The table of the expression, given the table of what follows it. The groups of the expression
are numbered from `group` on. -/
def table (text : List σ) : Regex σ → (group : Nat) → {α : Type} → Table (Found σ α) →
    Table (Found σ α)
  | .empty, _, _, k => k
  | .one set, _, _, k => Table.consume set text k
  | .blocks set size, _, _, k => (Table.repeated set size text k).2
  | .atEnd, _, _, k => Table.atEnd k
  | .seq a b, g, _, k => table text a g (table text b (g + a.groups) k)
  | .alt a b, g, _, k => Table.orElse (table text a g k) (table text b (g + a.groups) k)
  | .group a, g, _, k => capture text g (table text a (g + 1) (stamp k))

/-- The captures of the first match of the whole text. -/
def captures? (r : Regex σ) (text : List σ) : Option (List (Capture σ)) :=
  let atEnd : Table (Found σ Unit) := text.foldr (fun _ table => none :: table) [some ([], ())]
  ((table text r 0 atEnd).head?.join).map Prod.fst

/-- Whether the expression matches the whole text. -/
def isMatch (r : Regex σ) (text : List σ) : Bool := (captures? r text).isSome

/-- Whether the expression matches some start of the text. -/
def isPrefixMatch (r : Regex σ) (text : List σ) : Bool :=
  let anywhere : Table (Found σ Unit) :=
    text.foldr (fun _ table => some ([], ()) :: table) [some ([], ())]
  (table text r 0 anywhere).head?.join.isSome

end Regex

end StyleCheck
