import StyleCheck.Command.Run
import StyleCheck.CommandLine.Grammar
import StyleCheck.CommandLine.Parse

/-!
# The program

Takes a picture of the part of the disk that the command line is about, runs the command on the
picture, and carries the files that the command wrote back to the disk.
-/

namespace StyleCheck.Program

open CommandLine (Invocation)

/-- The text of the path that names lead to from the root. -/
def absolute (names : List String) : String := "/" ++ "/".intercalate names

/-- Adds what is at a place to the picture: a file, or a directory without its entries. Places
that cannot be read are left out. -/
def capture (disk : Disk) (names : List String) : IO Disk := do
  if (disk.root.find? names).isSome then return disk
  try
    let place := (← IO.currentDir) / absolute names
    if ← place.isDir then
      return { disk with root := disk.root.put names (.directory []) }
    else
      let content ← IO.FS.readBinFile place
      return { disk with root := disk.root.put names (.file content.toList) }
  catch _ => return disk

/-- The tree at a place, without links and what cannot be read. -/
partial def tree (names : List String) : IO (Option Node) := do
  try
    let place := (← IO.currentDir) / absolute names
    match (← place.symlinkMetadata).type with
    | .file => return some (.file (← IO.FS.readBinFile place).toList)
    | .dir =>
      let entries ← (← place.readDir).toList.filterMapM fun entry => do
        return (← tree (names ++ [entry.fileName])).map fun node => (entry.fileName, node)
      return some (.directory entries)
    | _ => return none
  catch _ => return none

/-- Adds a place with everything below it to the picture. -/
def captureTree (disk : Disk) (names : List String) : IO Disk := do
  match ← tree names with
  | some node => return { disk with root := disk.root.put names node }
  | none => capture disk names

/-- The names that a path stands for. -/
def namesOf (disk : Disk) (path : Path) : List String :=
  (Location.ofPath (disk.currentPath.join path)).names

/-- Adds what is at some paths to the picture. -/
def capturePaths (disk : Disk) (paths : List Path) : IO Disk :=
  paths.foldlM (fun disk path => capture disk (namesOf disk path)) disk

/-- The files that speak about everything below their directory. -/
def directoryFiles : List Path := [⟨".editorconfig"⟩, ⟨".ignore"⟩, ⟨".gitignore"⟩, ⟨".git"⟩]

/-- Adds what a directory knows of its repository to the picture. -/
def captureRepository (disk : Disk) (directory : Path) : IO Disk := do
  let own := do
    let content ← (disk.read (directory.join ⟨".git"⟩)).toOption
    (Ignore.firstLine? content).bind (Text.dropWord? Ignore.workingCopyMark)
  let disk ← capturePaths disk
    (own.toList.map fun own => Path.join ⟨String.ofList own⟩ ⟨"commondir"⟩)
  let repository := Ignore.repositoryDirectory? disk directory
  capturePaths disk (repository.toList.map fun repository => repository.join ⟨"info/exclude"⟩)

/-- Adds the files that speak about a place from above to the picture. -/
def captureAbove (disk : Disk) (names : List String) : IO Disk :=
  (names :: Location.above names).foldlM (fun disk above => do
    let directory := (Location.mk true above).path
    captureRepository (← capturePaths disk (directoryFiles.map directory.join)) directory) disk

/-- The paths that a command reads with everything below them, and those that it reads or writes
as single files. -/
def concerns (invocation : Invocation) : List Path × List Path :=
  match invocation.command with
  | .check a => (a.paths, a.config.toList ++ a.output.toList)
  | .init a => ([], [a.output])
  | .validateConfig config => ([], [config])
  | .showConfig config => ([], config.toList)

/-- The picture of the disk that a command needs. -/
def picture (invocation : Invocation) (current : List String) (home : Path) : IO Disk := do
  let (trees, files) := concerns invocation
  let disk : Disk := { root := .directory [], current }
  let disk ← capture disk current
  let disk ← (trees.map (namesOf disk)).foldlM (fun disk names => do
    captureAbove (← captureTree disk names) names) disk
  let own := [Config.localName, home.join ⟨".config/ec-guard/config.toml"⟩] ++
    Ignore.userConfigurations.map home.join
  let disk ← (files ++ own).foldlM (fun disk path => do
    let names := namesOf disk path
    capture (← capture disk names.dropLast) names) disk
  capturePaths disk [Ignore.userPath disk home]

/-- Carries a file that was written back to the disk. -/
def restore (before after : Disk) (path : Path) : IO Unit := do
  match after.read path, before.read path with
  | .ok new, .ok old => if new ≠ old then write new
  | .ok new, .error _ => write new
  | .error _, _ => pure ()
where
  write (content : List UInt8) : IO Unit := do
    if let some directory := path.parent? then
      if !directory.text.isEmpty then IO.FS.createDirAll directory.text
    IO.FS.writeBinFile path.text ⟨content.toArray⟩

/-- Runs a command on the disk. -/
def perform (invocation : Invocation) : IO UInt32 := do
  let current := (Location.ofPath ⟨(← IO.currentDir).toString⟩).names
  let home : Path := ⟨(← IO.getEnv "HOME").getD "/"⟩
  let mayColor := (← IO.getEnv "NO_COLOR").isNone
  let output ← IO.getStdout
  let diagnostics ← IO.getStderr
  let surroundings : Command.Surroundings := {
    home
    outputColors := mayColor && (← output.isTty)
    diagnosticsColors := mayColor && (← diagnostics.isTty) }
  let disk ← picture invocation current home
  let outcome := Command.run surroundings invocation disk
  (concerns invocation).2.forM (restore disk outcome.disk)
  diagnostics.putStr outcome.diagnostics
  output.putStr outcome.output
  return outcome.exit.code.toUInt32

end StyleCheck.Program

/-- Runs the command that the command line asks for. -/
def main (arguments : List String) : IO UInt32 := do
  match StyleCheck.CommandLine.parse arguments with
  | .ok invocation => StyleCheck.Program.perform invocation
  | .error stop =>
    if stop.exitCode = 0 then IO.println stop.text else IO.eprintln stop.text
    return stop.exitCode.toUInt32
