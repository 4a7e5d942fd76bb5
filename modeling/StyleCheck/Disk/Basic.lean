import StyleCheck.Path.Basic
import StyleCheck.Text.Utf8

/-!
# File systems and disks

What the program asks of a file system, the disks that answer it, and how they change.
-/

namespace StyleCheck

/-! ## File systems

What the program asks of a file system when it looks for settings: texts of files, which paths are
regular files, and two well-known directories. Every lookup takes the file system as a value, so
that a lookup is a function of what the files hold. -/

/-- The kinds of failure that make a difference to what is reported. -/
inductive IoKind
  | notFound
  | permissionDenied
  | other
  deriving DecidableEq, Repr

/-- A failed operation on files. -/
structure IoError where
  kind : IoKind
  text : String
  deriving DecidableEq, Repr

/-- A file system as lookups of settings see it. -/
structure FileSystem where
  readText : Path → Except IoError String
  isFile : Path → Bool
  currentDirectory : Except IoError Path
  configDirectory : Option Path

/-! ## Disks

A tree of directories and files, seen from a current directory. A path is followed name by name:
every name but the last has to lead to a directory, and so has a name with a separator behind it.
Directories are left through `..` to the one that holds them. -/

namespace IoError

/-- Nothing is there. -/
def missing : IoError := ⟨.notFound, "No such file or directory (os error 2)"⟩

/-- Something is there already. -/
def occupied : IoError := ⟨.other, "File exists (os error 17)"⟩

/-- A directory is needed, and it is a file. -/
def notDirectory : IoError := ⟨.other, "Not a directory (os error 20)"⟩

/-- A file is needed, and it is a directory. -/
def isDirectory : IoError := ⟨.other, "Is a directory (os error 21)"⟩

/-- A name or a path is longer than it may be. -/
def nameTooLong : IoError := ⟨.other, "File name too long (os error 36)"⟩

/-- A path holds a character that no path may hold. -/
def unusable : IoError := ⟨.other, "file name contained an unexpected NUL byte"⟩

/-- A file is read as text that is none. -/
def notText : IoError := ⟨.other, "stream did not contain valid UTF-8"⟩

end IoError

/-- A file or a directory with its entries. -/
inductive Node
  | file (content : List UInt8)
  | directory (entries : List (String × Node))

namespace Node

/-- Whether it is a directory. -/
def isDirectory : Node → Bool
  | file _ => false
  | directory _ => true

/-- What it contains; a file contains nothing. -/
def entries : Node → List (String × Node)
  | file _ => []
  | directory entries => entries

/-- What the names lead to. -/
def find? : Node → List String → Option Node
  | node, [] => some node
  | node, name :: names => (node.entries.lookup name).bind (find? · names)

/-- The content of the file that the names lead to. -/
def content? (node : Node) (names : List String) : Option (List UInt8) :=
  match node.find? names with
  | some (file content) => some content
  | _ => none

/-- The entries with one put in its place or at the end. -/
def setEntry (name : String) (node : Node) : List (String × Node) → List (String × Node)
  | [] => [(name, node)]
  | (other, old) :: more =>
    if other = name then (name, node) :: more else (other, old) :: setEntry name node more

/-- The tree with `new` where the names lead; directories on the way are made as needed. -/
def put : Node → List String → Node → Node
  | _, [], new => new
  | node, name :: names, new =>
    let old := (node.entries.lookup name).getD (directory [])
    directory (setEntry name (put old names new) node.entries)

/-- The tree without what the names lead to. -/
def erase : Node → List String → Node
  | node, [] => node
  | node, [name] => directory (node.entries.filter (·.1 != name))
  | node, name :: names =>
    match node.entries.lookup name with
    | none => node
    | some child => directory (setEntry name (erase child names) node.entries)

end Node

/-- A tree, and the names that lead to the current directory. -/
structure Disk where
  root : Node
  current : List String

namespace Disk

/-- The most bytes that a name may have. -/
def maxNameSize : Nat := 255

/-- The most bytes that a path may have. -/
def maxPathSize : Nat := 4095

/-- Follows pieces of a path from a place. The place that the last name leads to need not
exist. -/
def follow (disk : Disk) : List String → List (List Char) → Except IoError (List String)
  | place, [] => .ok place
  | place, piece :: pieces =>
    match disk.root.find? place with
    | none => .error .missing
    | some (.file _) => .error .notDirectory
    | some (.directory _) =>
      if piece = [] ∨ piece = ['.'] then disk.follow place pieces
      else if piece = ['.', '.'] then disk.follow place.dropLast pieces
      else if maxNameSize < (String.ofList piece).utf8ByteSize then .error .nameTooLong
      else disk.follow (place ++ [String.ofList piece]) pieces

/-- Where a path starts. -/
def start (disk : Disk) (path : Path) : List String :=
  if path.isAbsolute then [] else disk.current

/-- The place of a path. It need not exist, but its directory does. -/
def place (disk : Disk) (path : Path) : Except IoError (List String) :=
  if path.text.toList.contains '\x00' then .error .unusable
  else if path.text.isEmpty then .error .missing
  else if maxPathSize < path.text.utf8ByteSize then .error .nameTooLong
  else disk.follow (disk.start path) (Text.piecesAt '/' path.text.toList)

/-- What is at a path. -/
def find (disk : Disk) (path : Path) : Except IoError Node := do
  match disk.root.find? (← disk.place path) with
  | some node => pure node
  | none => throw .missing

/-- Whether something is at the path. -/
def holds (disk : Disk) (path : Path) : Bool := (disk.find path).toOption.isSome

/-- Whether a directory is at the path. -/
def hasDirectory (disk : Disk) (path : Path) : Bool :=
  (disk.find path).toOption.any Node.isDirectory

/-- Whether a file is at the path. -/
def hasFile (disk : Disk) (path : Path) : Bool :=
  (disk.find path).toOption.any fun node => !node.isDirectory

/-- The content of a file. -/
def read (disk : Disk) (path : Path) : Except IoError (List UInt8) := do
  match ← disk.find path with
  | .file content => pure content
  | .directory _ => throw .isDirectory

/-- The text of a file. -/
def readText (disk : Disk) (path : Path) : Except IoError String := do
  match Text.Utf8.decode? (← disk.read path) with
  | some text => pure (String.ofList text)
  | none => throw .notText

/-- The path of the current directory. -/
def currentPath (disk : Disk) : Path := (Location.mk true disk.current).path

/-- The disk as lookups of settings see it, with the user's directory for configurations. -/
def fileSystem (disk : Disk) (configDirectory : Option Path) : FileSystem where
  readText := disk.readText
  isFile := disk.hasFile
  currentDirectory := .ok disk.currentPath
  configDirectory := configDirectory

end Disk

end StyleCheck

namespace StyleCheck.Disk

/-! ## Changing a disk

Writing files and making directories. A change that fails may leave behind what it did before it
failed, so every change answers with the disk as it is afterwards. -/

/-- A change of the disk, which may fail. -/
abbrev Change := ExceptT IoError (StateM Disk)

/-- Puts something where the names lead. -/
def put (names : List String) (node : Node) : Change Unit :=
  modify fun disk => { disk with root := disk.root.put names node }

/-- The path without the separators at its end, except for the root. -/
def dropSeparators (path : Path) : Path :=
  match (path.text.toList.reverse.dropWhile (· == '/')).reverse with
  | [] => path
  | text => ⟨String.ofList text⟩

/-- Writes a file, new or in place of an old one. A path with a separator at its end names no
file. -/
def write (path : Path) (content : List UInt8) : Change Unit := do
  let disk ← get
  let names ← disk.place (dropSeparators path)
  if dropSeparators path ≠ path then throw .isDirectory
  match disk.root.find? names with
  | some (.directory _) => throw .isDirectory
  | _ => put names (.file content)

/-- Makes a directory in one that exists. -/
def makeDirectory (path : Path) : Change Unit := do
  let disk ← get
  let names ← disk.place path
  if (disk.root.find? names).isSome then throw .occupied
  put names (.directory [])

/-- Makes a directory and the ones above it, as far as they are missing; the components of its
path come in reverse order. -/
def makeDirectoriesUpwards : List Path.Component → Change Unit
  | [] => pure ()
  | last :: before => do
    let path := Path.ofComponents (last :: before).reverse
    let make (whenMissing : Change Unit) : Change Unit :=
      tryCatch (makeDirectory path) fun error => do
        if error.kind = .notFound then whenMissing
        else if (← get).hasDirectory path then pure ()
        else throw error
    make do
      makeDirectoriesUpwards before
      make (throw .missing)

/-- Makes a directory and the ones above it, as far as they are missing. -/
def makeDirectories (path : Path) : Change Unit :=
  makeDirectoriesUpwards path.components.reverse

end StyleCheck.Disk
