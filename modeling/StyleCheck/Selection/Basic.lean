import StyleCheck.Exclude.Filter
import StyleCheck.Failure
import StyleCheck.Ignore.InForce

/-!
# Selecting the files to check

The files that the paths of a command line stand for: a directory for the files below it, in the
order of their paths, and a file for itself. Excluded files are left out; ignore files are heeded
below directories only, and where they are, the path `-` stands for the input, which holds no
files. A file that is reached again by the same path is listed once.
-/

namespace StyleCheck.Selection

/-! ## Walking directories

The files below a directory, each by the path that leads to it from where the walk starts. Where
ignore rules are in force, what they skip is left out with everything below it; the directory that
the walk starts at is never skipped. -/

mutual

/-- The files at and below a node, with the rules in force around it. -/
def walk (path : Path) (inForce : Option Ignore.InForce) : Node → List Path
  | .file _ => [path]
  | .directory entries => walkEntries path (inForce.map (·.enter path)) entries

/-- The files at and below the entries of a directory, with the rules in force in it. -/
def walkEntries (path : Path) (inForce : Option Ignore.InForce) : List (String × Node) → List Path
  | [] => []
  | (name, node) :: more =>
    let inner := path.join ⟨name⟩
    let found :=
      if inForce.any (·.skips inner node.isDirectory) then [] else walk inner inForce node
    found ++ walkEntries path inForce more

end

end StyleCheck.Selection

namespace StyleCheck

/-! ## Selections -/

/-- How files are selected. -/
structure Selection where
  filter : Exclude.Filter
  /-- Whether ignore files are heeded. -/
  heedsIgnoreFiles : Bool

namespace Selection

/-- Whether the path stands for the input. -/
def isInput (path : Path) : Bool := path.same ⟨"-"⟩

/-- The files below a directory, without those that ignore files skip where they are heeded. -/
def found (selection : Selection) (disk : Disk) (home : Path) (path : Path) : List Path :=
  match disk.place path with
  | .error _ => []
  | .ok names =>
    let node := (disk.root.find? names).getD (.directory [])
    if !selection.heedsIgnoreFiles then walk path none node
    else if isInput path then []
    else walk path (some (.before disk home path names)) node

/-- The files below a directory that are selected. -/
def below (selection : Selection) (disk : Disk) (home : Path) (path : Path) : List Path :=
  ((selection.found disk home path).filter selection.filter.includes).mergeSort Path.le

/-- The files that a path stands for. -/
def ofPath (selection : Selection) (disk : Disk) (home : Path) (path : Path) :
    Except Failure (List Path) :=
  if disk.hasDirectory path then .ok (selection.below disk home path)
  else if disk.hasFile path then .ok ([path].filter selection.filter.includes)
  else .error (.fileRead path ⟨.notFound, "no such file or directory"⟩)

/-- The files that some paths stand for. -/
def ofPaths (selection : Selection) (disk : Disk) (home : Path) (paths : List Path) :
    Except Failure (List Path) := do
  let found ← paths.mapM (selection.ofPath disk home)
  pure (found.flatten.eraseDupsBy Path.same)

end Selection

end StyleCheck
