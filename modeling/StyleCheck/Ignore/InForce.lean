import StyleCheck.Ignore.UserRules

/-!
# Ignore rules in force

The rules of a directory apply to everything below it. The kinds of rules are asked in their order,
and within a kind the directories from the closest one on; the first one that says something
decides. The user's own rules are asked last.

A walk reaches directories by the path that it started with. The directories above its start are
known by their places instead, so a path is taken from the start and put behind its place before
their rules look at it.
-/

namespace StyleCheck.Ignore

/-- The rules in force in a directory of a walk. -/
structure InForce where
  disk : Disk
  /-- The path that the walk started with. -/
  start : Path
  /-- The place where it started, from the root. -/
  place : Path
  /-- The rules of the directories of the walk, the closest first. -/
  inside : List DirectoryRules
  /-- The rules of the directories above its start, the closest first. -/
  above : List DirectoryRules
  /-- The rules of the user's ignore file. -/
  user : List Rule

namespace InForce

/-- The rules in force before a walk enters the directory that it starts at, of which the names
are given. -/
def before (disk : Disk) (home start : Path) (names : List String) : InForce :=
  let location : Location := ⟨true, names⟩
  { disk
    start
    place := location.path
    inside := []
    above := location.directories.map fun directory =>
      DirectoryRules.ofDirectory disk directory.path
    user := userRules disk home }

/-- The rules in force one directory further. -/
def enter (inForce : InForce) (directory : Path) : InForce :=
  { inForce with inside := .ofDirectory inForce.disk directory :: inForce.inside }

/-- The text of a path as the rules above the start of the walk see it. -/
def fromAbove (inForce : InForce) (path : List Char) : List Char :=
  let start := inForce.start.text.toList
  let inner :=
    if isHere start then path
    else withoutSeparator ((Text.dropWord? (withoutHere start) path).getD path)
  (inForce.place.join ⟨String.ofList inner⟩).text.toList

/-- What the rules say of a path of the walk. -/
def verdict? (inForce : InForce) (path : Path) (isDirectory : Bool) : Option Verdict :=
  let text := withoutHere path.text.toList
  let fromAbove := inForce.fromAbove text
  let among (kind : DirectoryRules → List Rule) : Option Verdict :=
    (inForce.inside.findSome? (·.verdict? kind text isDirectory)).or
      (inForce.above.findSome? (·.verdict? kind fromAbove isDirectory))
  let current := inForce.disk.currentPath.text.toList
  let user := Rule.verdict? inForce.user (String.ofList (fromDirectory current text)) isDirectory
  (among (·.general)).or ((among (·.shared)).or ((among (·.own)).or user))

/-- Whether a path of the walk is skipped. -/
def skips (inForce : InForce) (path : Path) (isDirectory : Bool) : Bool :=
  inForce.verdict? path isDirectory = some .skip

end InForce

end StyleCheck.Ignore
