import StyleCheck.Path.Basic
import StyleCheck.Regex.Basic
import StyleCheck.Text.Basic
import StyleCheck.Text.Utf8

/-!
# Path globs and filters

The pattern language of exclude lists and of ignore files.

- `?` is one byte and `*` any number of bytes, the separator included unless it is kept literal.
- A `**` that is a whole component stands for directories: `**/` at the start for any number of
  them, `/**/` in between, `/**` at the end for everything below. Any other `**` is `*` twice.
- `[…]` is one byte of a set: single characters and ranges, negated by `!` or `^` in front. A
  character of several bytes lists each of its bytes.
- `{a,b}` is one of its parts, which may contain further groups; an empty part is left out.
- `\c` is the character `c`.

Paths are matched byte by byte and as a whole. A glob that asks for the name or the extension of
the last component does not match a path that ends in `..`, because such a path has none.
-/

namespace StyleCheck.Exclude

/-- A piece of a path glob. -/
inductive Piece
  | char (c : Char)
  | one
  | star
  /-- A `**/` at the start. -/
  | anyDirectories
  /-- A `/**` at the end. -/
  | everythingBelow
  /-- A `/**/` in between. -/
  | directoriesBetween
  | set (negated : Bool) (ranges : List (Char × Char))
  | either (parts : List (List Piece))

/-- What is wrong with a glob. -/
inductive Fault
  | unclosedSet
  | wrongRange (first last : Char)
  | unopenedGroup
  | unclosedGroup
  | danglingEscape
  deriving DecidableEq, Repr

/-- The text that reports the fault. -/
def Fault.message : Fault → String
  | unclosedSet => "unclosed character class; missing ']'"
  | wrongRange first last =>
    "invalid range; '" ++ first.toString ++ "' > '" ++ last.toString ++ "'"
  | unopenedGroup => "unopened alternate group; missing '\x7b' (maybe escape '\x7d' with '[\x7d]'?)"
  | unclosedGroup => "unclosed alternate group; missing '\x7d' (maybe escape '\x7b' with '[\x7b]'?)"
  | danglingEscape => "dangling '\\'"

/-- A glob that cannot be read, and why. -/
structure GlobError where
  glob : String
  fault : Fault
  deriving DecidableEq, Repr

/-- The text that reports the error. -/
def GlobError.message (error : GlobError) : String :=
  "error parsing glob '" ++ error.glob ++ "': " ++ error.fault.message

/-- The variants of the language. -/
structure Dialect where
  /-- `?` and `*` stop at separators. -/
  separatorLiteral : Bool
  /-- An opening bracket that is never closed is itself. -/
  openBracketLiteral : Bool
  deriving DecidableEq, Repr

/-- The variant of exclude lists. -/
def Dialect.exclude : Dialect := ⟨false, false⟩

/-- The variant of ignore files. -/
def Dialect.ignoreFile : Dialect := ⟨true, true⟩

/-! ## Sets -/

/-- The ranges of a set, latest first, from the text after those already read. `isOpen` says
whether a hyphen has just opened a range, `first` whether nothing has been read yet. Gives the
ranges and the text after the set. -/
def setRanges (isOpen first : Bool) (ranges : List (Char × Char)) :
    List Char → Except Fault (List (Char × Char) × List Char)
  | [] => .error .unclosedSet
  | c :: rest =>
    if c = ']' ∧ !first then .ok (if isOpen then ('-', '-') :: ranges else ranges, rest)
    else if c = '-' ∧ !first ∧ !isOpen then setRanges true false ranges rest
    else match isOpen, ranges with
      | true, (low, _) :: others =>
        if c < low then .error (.wrongRange low c)
        else setRanges false false ((low, c) :: others) rest
      | _, _ => setRanges false false ((c, c) :: ranges) rest

theorem length_setRanges {isOpen first : Bool} {ranges found : List (Char × Char)}
    {cs rest : List Char} (h : setRanges isOpen first ranges cs = .ok (found, rest)) :
    rest.length < cs.length := by
  induction cs generalizing isOpen first ranges with
  | nil => simp [setRanges] at h
  | cons c cs ih =>
    simp only [setRanges] at h
    simp only [List.length_cons]
    split at h
    · simp only [Except.ok.injEq, Prod.mk.injEq] at h
      obtain ⟨_, rfl⟩ := h
      omega
    · split at h
      · have := ih h; omega
      · split at h
        · split at h
          · simp at h
          · have := ih h; omega
        · have := ih h; omega

/-- A set cut off a text that follows its opening bracket. -/
def readSet (cs : List Char) : Except Fault (Piece × List Char) :=
  let (negated, listed) := match cs with
    | '!' :: rest | '^' :: rest => (true, rest)
    | _ => (false, cs)
  match setRanges false true [] listed with
  | .error fault => .error fault
  | .ok (ranges, rest) => .ok (.set negated ranges.reverse, rest)

theorem length_readSet {cs rest : List Char} {piece : Piece}
    (h : readSet cs = .ok (piece, rest)) : rest.length < cs.length := by
  unfold readSet at h
  split at h
  rename_i negated listed hlisted
  have hle : listed.length ≤ cs.length := by
    split at hlisted <;> simp only [Prod.mk.injEq] at hlisted <;>
      obtain ⟨_, rfl⟩ := hlisted <;> simp
  split at h
  · simp at h
  · rename_i hset
    simp only [Except.ok.injEq, Prod.mk.injEq] at h
    obtain ⟨_, rfl⟩ := h
    have := length_setRanges hset
    omega

/-! ## Reading a glob -/

/-- A group that is being read: its finished parts, latest first, and the pieces of the part in
hand, latest first. The glob itself is the outermost one. -/
structure Frame where
  finished : List (List Piece) := []
  current : List Piece := []

/-- Add a piece to the part in hand. -/
def Frame.push (frame : Frame) (piece : Piece) : Frame :=
  { frame with current := piece :: frame.current }

/-- The group that a frame has collected. -/
def Frame.group (frame : Frame) : Piece :=
  .either ((frame.current.reverse :: frame.finished).reverse)

/-- Put a piece that stands for directories in the place of the separator before it. Two such
pieces in a row are one. -/
def Frame.pushDirectories (frame : Frame) (piece : Piece) : Frame :=
  match frame.current with
  | .anyDirectories :: _ | .everythingBelow :: _ => frame
  | _ :: others => { frame with current := piece :: others }
  | [] => { frame with current := [piece] }

/-- Read what follows two stars: the piece or pieces they are, and the text after them.
`previous` is the character before the stars, `inner` whether they stand in a group. -/
def readStars (frame : Frame) (inner : Bool) (previous : Option Char) (rest : List Char) :
    Frame × List Char :=
  let twoStars := (frame.push .star).push .star
  if frame.current.isEmpty then
    match rest with
    | [] => (frame.push .anyDirectories, [])
    | '/' :: after => (frame.push .anyDirectories, after)
    | _ => (twoStars, rest)
  else if previous != some '/' && !(inner && (previous == some ',' || previous == some '{')) then
    (twoStars, rest)
  else match rest with
    | [] => (frame.pushDirectories .everythingBelow, [])
    | '/' :: after => (frame.pushDirectories .directoriesBetween, after)
    | c :: _ =>
      if inner && (c == ',' || c == '}') then (frame.pushDirectories .everythingBelow, rest)
      else (twoStars, rest)

theorem length_readStars (frame : Frame) (inner : Bool) (previous : Option Char)
    (rest : List Char) : (readStars frame inner previous rest).2.length ≤ rest.length := by
  unfold readStars
  grind

/-- Read a glob. `outer` are the groups around the one in hand, innermost first. -/
def readPieces (dialect : Dialect) (outer : List Frame) (frame : Frame) (previous : Option Char) :
    List Char → Except Fault (List Piece)
  | [] => if outer.isEmpty then .ok frame.current.reverse else .error .unclosedGroup
  | '?' :: rest => readPieces dialect outer (frame.push .one) (some '?') rest
  | '*' :: '*' :: rest =>
    let read := readStars frame (!outer.isEmpty) previous rest
    let before := if read.2.length < rest.length then some '/' else some '*'
    readPieces dialect outer read.1 before read.2
  | '*' :: rest => readPieces dialect outer (frame.push .star) (some '*') rest
  | '[' :: rest =>
    match _h : readSet rest with
    | .ok (piece, after) => readPieces dialect outer (frame.push piece) (some ']') after
    | .error fault =>
      if dialect.openBracketLiteral ∧ fault = .unclosedSet then
        readPieces dialect outer (frame.push (.char '[')) (some '[') rest
      else .error fault
  | '{' :: rest => readPieces dialect (frame :: outer) {} (some '{') rest
  | '}' :: rest =>
    match outer with
    | [] => .error .unopenedGroup
    | enclosing :: others =>
      readPieces dialect others (enclosing.push frame.group) (some '}') rest
  | ',' :: rest =>
    let frame := if outer.isEmpty then frame.push (.char ',')
      else { finished := frame.current.reverse :: frame.finished, current := [] }
    readPieces dialect outer frame (some ',') rest
  | ['\\'] => .error .danglingEscape
  | '\\' :: c :: rest => readPieces dialect outer (frame.push (.char c)) (some c) rest
  | c :: rest => readPieces dialect outer (frame.push (.char c)) (some c) rest
termination_by cs => cs.length
decreasing_by
  all_goals simp only [List.length_cons]
  all_goals try omega
  · have := length_readStars frame (!outer.isEmpty) previous rest
    omega
  · have := length_readSet _h; omega

/-! ## Matching -/

/-- Whether a byte belongs to a set of ranges of characters. Of a range between characters of
several bytes, the inner range runs from the last byte of the one to the first byte of the
other. -/
def listsByte (ranges : List (Char × Char)) (b : UInt8) : Bool :=
  ranges.any fun (low, high) =>
    let lows := Text.Utf8.encode [low]
    let highs := Text.Utf8.encode [high]
    if low = high then lows.contains b
    else lows.dropLast.contains b || highs.tail.contains b ||
      (lows.getLast?.any (· ≤ b) && highs.head?.any (b ≤ ·))

/-- The separator as a byte. -/
def separator : UInt8 := 0x2F

/-- Any number of bytes. -/
def anything : Regex UInt8 := .many fun _ => true

/-- The bytes of a character, one after the other. -/
def charRegex (c : Char) : Regex UInt8 := .sequence ((Text.Utf8.encode [c]).map .symbol)

mutual

/-- Whether the piece is a group that stands for nothing at all. -/
def Piece.isBlank : Piece → Bool
  | .either parts => areBlank parts
  | _ => false

/-- Whether all pieces stand for nothing at all. -/
def isBlankPart : List Piece → Bool
  | [] => true
  | piece :: pieces => piece.isBlank && isBlankPart pieces

/-- Whether all parts stand for nothing at all. -/
def areBlank : List (List Piece) → Bool
  | [] => true
  | part :: parts => isBlankPart part && areBlank parts

end

mutual

/-- The expression of a piece. -/
def Piece.regex (dialect : Dialect) : Piece → Regex UInt8
  | .char c => charRegex c
  | .one => .one fun b => !dialect.separatorLiteral || b != separator
  | .star => .many fun b => !dialect.separatorLiteral || b != separator
  | .anyDirectories =>
    .alt (.optional (.symbol separator)) (.seq anything (.symbol separator))
  | .everythingBelow => .seq (.symbol separator) anything
  | .directoriesBetween =>
    .alt (.symbol separator) (.seq (.symbol separator) (.seq anything (.symbol separator)))
  | .set negated ranges => .one fun b => listsByte ranges b != negated
  | .either parts =>
    match partsRegex dialect parts with
    | [] => .empty
    | choices => .choice choices

/-- The expression of a sequence of pieces. -/
def piecesRegex (dialect : Dialect) : List Piece → Regex UInt8
  | [] => .empty
  | piece :: pieces => .seq (piece.regex dialect) (piecesRegex dialect pieces)

/-- The expressions of the parts of a group that stand for something. -/
def partsRegex (dialect : Dialect) : List (List Piece) → List (Regex UInt8)
  | [] => []
  | part :: parts =>
    if isBlankPart part then partsRegex dialect parts
    else piecesRegex dialect part :: partsRegex dialect parts

end

/-- The characters of pieces that are all single characters. -/
def literal? : List Piece → Option (List Char)
  | [] => some []
  | .char c :: pieces => (literal? pieces).map (c :: ·)
  | _ :: _ => none

/-- Whether the glob asks for the name of the last component: any directories, then a literal
without a separator. -/
def asksForName : List Piece → Bool
  | .anyDirectories :: pieces =>
    match literal? pieces with
    | some (c :: name) => !(c :: name).contains '/'
    | _ => false
  | _ => false

/-- Whether the glob asks for the extension alone: any directories or none, a star that may cross
separators, and a literal whose only dot is at its start. -/
def asksForExtension (dialect : Dialect) (pieces : List Piece) : Bool :=
  let afterStar := match pieces with
    | .anyDirectories :: .star :: rest => some rest
    | .star :: rest => if dialect.separatorLiteral then none else some rest
    | _ => none
  match afterStar.bind literal? with
  | some ('.' :: extension) => !extension.contains '.' && !extension.contains '/'
  | _ => false

/-- Whether the glob asks for the end of the path: any directories or none, a star or none, and a
literal. -/
def asksForEnd (dialect : Dialect) (pieces : List Piece) : Bool :=
  let (slash, rest) := match pieces with
    | .anyDirectories :: .char c :: rest => (['/'], Piece.char c :: rest)
    | .anyDirectories :: rest => ([], rest)
    | _ => ([], pieces)
  let literal := match rest with
    | .star :: more => if dialect.separatorLiteral then none else literal? more
    | _ => literal? rest
  match literal with
  | some text => slash ++ text != [] && slash ++ text != ['/']
  | none => false

/-- Whether the glob ends in an extension, that is in a literal with a dot in its last
component. -/
def endsInExtension (pieces : List Piece) : Bool :=
  let ending := pieces.reverse.takeWhile fun
    | .char c => c != '/' && c != '.'
    | _ => false
  match pieces.reverse.drop ending.length with
  | .char '.' :: _ => true
  | _ => false

/-- Whether matching goes by the name or the extension of the last component. -/
def readsLastComponent (dialect : Dialect) (pieces : List Piece) : Bool :=
  asksForName pieces ||
    ((literal? pieces).isNone &&
      (asksForExtension dialect pieces ||
        (!asksForEnd dialect pieces && endsInExtension pieces)))

/-- A glob made ready for matching. -/
structure Glob where
  regex : Regex UInt8
  /-- The glob goes by the name or the extension of the last component. -/
  byLastComponent : Bool

namespace Glob

/-- The glob of a pattern. -/
def ofPattern (dialect : Dialect) (pattern : String) : Except GlobError Glob :=
  match readPieces dialect [] {} none pattern.toList with
  | .error fault => .error ⟨pattern, fault⟩
  | .ok pieces => .ok {
      regex := match pieces with
        | [.anyDirectories] => anything
        | _ => piecesRegex dialect pieces
      byLastComponent := readsLastComponent dialect pieces }

/-- Whether the last component of a path is `..`, which is no name. -/
def endsUpwards (path : String) : Bool :=
  (Text.piecesAt '/' path.toList).getLast? == some ['.', '.']

/-- Whether the glob matches a path. -/
def isMatch (glob : Glob) (path : String) : Bool :=
  !(glob.byLastComponent && endsUpwards path) &&
    glob.regex.isMatch (Text.Utf8.encode path.toList)

end Glob

/-! ## Exclude filters

A list of globs that drops the paths that one of them matches. `.` components do not count, so
`build/**` drops `./build/out.txt` as well. -/

/-- The globs of an exclude list. -/
structure Filter where
  globs : List Glob

namespace Filter

/-- The filter of a list of patterns, or the error of the first pattern that is no glob. -/
def ofPatterns : List String → Except GlobError Filter
  | [] => .ok ⟨[]⟩
  | pattern :: patterns => do
    let glob ← Glob.ofPattern .exclude pattern
    let filter ← ofPatterns patterns
    pure ⟨glob :: filter.globs⟩

/-- Whether some glob matches the path. -/
def excludes (filter : Filter) (path : Path) : Bool :=
  filter.globs.any (·.isMatch path.clean.text)

/-- Whether no glob matches the path. -/
def includes (filter : Filter) (path : Path) : Bool := !filter.excludes path

end Filter

end StyleCheck.Exclude
