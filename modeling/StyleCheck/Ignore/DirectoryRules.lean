import StyleCheck.Disk.Basic
import StyleCheck.Ignore.Rule

/-!
# Ignore rules of a directory

A directory may hold ignore files of three kinds: `.ignore`, `.gitignore`, and `info/exclude` in
the directory that its repository keeps for itself. That is `.git`, or where `.git` is a file, the
directory that all working copies of the repository have in common.

The rules look at the texts of paths. A path is taken from the directory by cutting the text of the
directory off, after one `./` has been cut off both; where the text of the directory does not come
first, the path stays as it is.
-/

namespace StyleCheck.Ignore

/-! ## Paths as rules see them -/

/-- The text of a path without one `./` in front. -/
def withoutHere (path : List Char) : List Char := (Text.dropWord? ['.', '/'] path).getD path

/-- The text of a path without one separator in front. -/
def withoutSeparator (path : List Char) : List Char := (Text.dropWord? ['/'] path).getD path

/-- Whether the text of a path stands for the current directory by nothing but `.`
components. -/
def isHere (path : List Char) : Bool := Path.components ⟨String.ofList path⟩ == [.here]

/-- The text of a path taken from a directory. A single name is never cut. -/
def fromDirectory (directory path : List Char) : List Char :=
  let path := withoutHere path
  if isHere directory || !path.contains '/' then path
  else match Text.dropWord? directory path with
    | some rest => withoutSeparator rest
    | none => path

/-! ## Repositories -/

/-- The first line of a file. -/
def firstLine? (content : List UInt8) : Option (List Char) :=
  if content.isEmpty then none else (Rule.readLines (Text.piecesAt 0x0A content)).head?

/-- What comes before the directory of a working copy in a `.git` file. -/
def workingCopyMark : List Char := "gitdir: ".toList

/-- The directory that a repository keeps for itself, if there is a `.git` that leads to one. A
`.git` that is a file names a directory with a file `commondir`, which names the one in common. -/
def repositoryDirectory? (disk : Disk) (directory : Path) : Option Path :=
  let git := directory.join ⟨".git"⟩
  match disk.read git with
  | .error _ => some git
  | .ok content => do
    let own ← (firstLine? content).bind (Text.dropWord? workingCopyMark)
    let own : Path := ⟨String.ofList own⟩
    let shared ← (disk.read (own.join ⟨"commondir"⟩)).toOption.bind firstLine?
    let shared' : Path := ⟨String.ofList shared⟩
    some (if shared.head? = some '.' then own.join shared' else shared')

/-! ## The rules of a directory -/

/-- The rules of the ignore files in a directory, by their kinds. -/
structure DirectoryRules where
  /-- The text of the directory from which the rules take paths. -/
  directory : List Char
  /-- From `.ignore`. -/
  general : List Rule
  /-- From `.gitignore`. -/
  shared : List Rule
  /-- From `info/exclude`. -/
  own : List Rule

namespace DirectoryRules

/-- The rules of a file, none if it cannot be read. -/
def ofFile (disk : Disk) (path : Path) : List Rule :=
  ((disk.read path).toOption.map Rule.ofFile).getD []

/-- The rules of the ignore files in a directory. -/
def ofDirectory (disk : Disk) (directory : Path) : DirectoryRules where
  directory := withoutHere directory.text.toList
  general := ofFile disk (directory.join ⟨".ignore"⟩)
  shared := ofFile disk (directory.join ⟨".gitignore"⟩)
  own := ((repositoryDirectory? disk directory).map fun repository =>
    ofFile disk (repository.join ⟨"info/exclude"⟩)).getD []

/-- What the rules of one kind say of a path. -/
def verdict? (rules : DirectoryRules) (kind : DirectoryRules → List Rule) (path : List Char)
    (isDirectory : Bool) : Option Verdict :=
  Rule.verdict? (kind rules) (String.ofList (fromDirectory rules.directory path)) isDirectory

end DirectoryRules

end StyleCheck.Ignore
