import StyleCheck.EditorConfig.File
import StyleCheck.Failure
import StyleCheck.Path.Basic

/-!
# Resolving the settings of a file

For a file, the `.editorconfig` files in the directories that contain it are consulted, from its
own directory up to the first one that declares itself the root. What a closer file says wins, and
within a file what a later section says.

A resolver remembers what it found in each directory, so that each `.editorconfig` file is read
successfully at most once. A directory that failed is not remembered. It also notes the files it
has opened.
-/

namespace StyleCheck.EditorConfig

/-- The name of the files that hold settings. -/
def fileName : Path := ⟨".editorconfig"⟩

/-- The file that holds the settings of a directory. -/
def fileIn (directory : Location) : Path := directory.path.join fileName

/-- The file of a directory that was opened, and the text in it. -/
structure Reading where
  directory : Location
  text : Except IoError String
  deriving Repr

namespace Reading

/-- What the text says. -/
def contents (reading : Reading) : Except Failure Contents :=
  match reading.text with
  | .error cause => .error (.fileRead (fileIn reading.directory) cause)
  | .ok text =>
    match Contents.parse text.toList with
    | .error error =>
      .error (.editorConfig (fileIn reading.directory) error.line error.fault.message)
    | .ok contents => .ok contents

/-- The reading of a directory's file, if there is a file. -/
def of? (fs : FileSystem) (directory : Location) : Option Reading :=
  if fs.isFile (fileIn directory) then some ⟨directory, fs.readText (fileIn directory)⟩ else none

end Reading

/-- What a directory says as its file is now; `none` where there is no file. -/
def consult (fs : FileSystem) (directory : Location) : Except Failure (Option Contents) :=
  match Reading.of? fs directory with
  | none => .ok none
  | some reading => reading.contents.map some

/-- What is remembered between lookups. -/
structure Resolver where
  /-- What was found in the directories searched so far, the latest first; `none` where there is
  no file. -/
  cache : List (Location × Option Contents) := []
  /-- The files opened so far, the latest first. -/
  readings : List Reading := []

namespace Resolver

/-- How many texts have been read. -/
def reads (resolver : Resolver) : Nat :=
  resolver.readings.countP fun reading => reading.text.isOk

/-- What is remembered of a directory. -/
def memory (resolver : Resolver) (directory : Location) : Option (Option Contents) :=
  resolver.cache.lookup directory

/-- Remember what a directory says. -/
def remember (resolver : Resolver) (directory : Location) (found : Option Contents) : Resolver :=
  { resolver with cache := (directory, found) :: resolver.cache }

/-- Note the reading of a directory's file, if there is a file. -/
def note (fs : FileSystem) (resolver : Resolver) (directory : Location) : Resolver :=
  { resolver with readings := (Reading.of? fs directory).toList ++ resolver.readings }

/-- What a directory says, remembered or read. -/
def load (fs : FileSystem) (resolver : Resolver) (directory : Location) :
    Except Failure (Option Contents) × Resolver :=
  match resolver.memory directory with
  | some found => (.ok found, resolver)
  | none =>
    match consult fs directory with
    | .error failure => (.error failure, resolver.note fs directory)
    | .ok found => (.ok found, (resolver.note fs directory).remember directory found)

/-- What the directories say, up to and with the first root; directories without a file are left
out. -/
def search (fs : FileSystem) :
    List Location → Resolver → Except Failure (List (Location × Contents)) × Resolver
  | [], resolver => (.ok [], resolver)
  | directory :: directories, resolver =>
    match load fs resolver directory with
    | (.error failure, resolver) => (.error failure, resolver)
    | (.ok none, resolver) => search fs directories resolver
    | (.ok (some contents), resolver) =>
      if contents.root then (.ok [(directory, contents)], resolver)
      else match search fs directories resolver with
        | (.error failure, resolver) => (.error failure, resolver)
        | (.ok found, resolver) => (.ok ((directory, contents) :: found), resolver)

/-- The properties with those that a file in `directory` sets for a location. -/
def assign (location : Location) (properties : Properties) (directory : Location)
    (contents : Contents) : Properties :=
  match location.namesFrom? directory with
  | none => properties
  | some names =>
    contents.sections.foldl
      (fun properties sec =>
        if sec.appliesTo (Location.relativePath names) then properties.setAll sec.properties
        else properties)
      properties

/-- The properties that files set for a location, the closest file first in the list and last in
effect. -/
def assigned (location : Location) (files : List (Location × Contents)) : Properties :=
  files.foldr (fun (directory, contents) properties =>
    assign location properties directory contents) []

/-- The location of a path, taken relative to the current directory. -/
def locate (fs : FileSystem) (path : Path) : Except Failure Location :=
  if path.isAbsolute then .ok (.ofPath path)
  else match fs.currentDirectory with
    | .error cause => .error (.io cause)
    | .ok directory => .ok (.ofPath (directory.join path))

/-- The properties of a file, without those that are taken back. -/
def properties (fs : FileSystem) (path : Path) (resolver : Resolver) :
    Except Failure Properties × Resolver :=
  match locate fs path with
  | .error failure => (.error failure, resolver)
  | .ok location =>
    match search fs location.directories resolver with
    | (.error failure, resolver) => (.error failure, resolver)
    | (.ok files, resolver) => (.ok (assigned location files).withoutUnset, resolver)

/-- The settings of a file. -/
def settings (fs : FileSystem) (path : Path) (resolver : Resolver) :
    Except Failure EditorSettings × Resolver :=
  let (found, resolver) := properties fs path resolver
  (found.map Properties.settings, resolver)

end Resolver

/-! ## Searches in single steps

A search for the settings of a file, cut into the steps that other searches on the same resolver
may come between: ask the memory about a directory, read the file of the directory if the memory
knows nothing, and remember what it says. Each step uses the resolver as it finds it, so two
searches may both miss a directory, both read it and both remember it. -/

/-- How far a search has come. What it has found is listed with the closest directory first. -/
inductive Search
  /-- About to ask the memory about a directory. -/
  | asking (found : List (Location × Contents)) (directory : Location) (above : List Location)
  /-- About to read the file of a directory of which the memory knew nothing. -/
  | reading (found : List (Location × Contents)) (directory : Location) (above : List Location)
  /-- About to remember what a directory says. -/
  | storing (found : List (Location × Contents)) (directory : Location) (answer : Option Contents)
      (above : List Location)
  | ended (result : Except Failure (List (Location × Contents)))

namespace Search

/-- The search of the directories that are left. -/
def resume (found : List (Location × Contents)) : List Location → Search
  | [] => .ended (.ok found)
  | directory :: above => .asking found directory above

/-- The search once it is known what a directory says. -/
def proceed (found : List (Location × Contents)) (directory : Location)
    (above : List Location) : Option Contents → Search
  | none => resume found above
  | some contents =>
    if contents.root then .ended (.ok (found ++ [(directory, contents)]))
    else resume (found ++ [(directory, contents)]) above

/-- One step of the search, and what it leaves of the resolver. -/
def step (fs : FileSystem) (resolver : Resolver) : Search → Search × Resolver
  | asking found directory above =>
    match resolver.memory directory with
    | some answer => (proceed found directory above answer, resolver)
    | none => (reading found directory above, resolver)
  | reading found directory above =>
    match consult fs directory with
    | .error failure => (ended (.error failure), resolver.note fs directory)
    | .ok answer => (storing found directory answer above, resolver.note fs directory)
  | storing found directory answer above =>
    (proceed found directory above answer, resolver.remember directory answer)
  | ended result => (ended result, resolver)

end Search

end StyleCheck.EditorConfig
