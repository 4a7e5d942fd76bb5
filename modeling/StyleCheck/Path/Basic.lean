import StyleCheck.Text.Basic

/-!
# Paths

A path is its text; what it means are its components. Repeated and trailing separators and inner
`.` components leave no trace in them, so two texts with the same components are the same path.
Paths are ordered component by component, not as texts.
-/

namespace StyleCheck

/-- A path as it was written. -/
structure Path where
  text : String
  deriving DecidableEq, Repr

namespace Path

/-- A component of a path. -/
inductive Component
  | root
  /-- A `.` at the very start. -/
  | here
  /-- A `..`. -/
  | up
  | name (s : String)
  deriving DecidableEq, Repr

namespace Component

/-- The text of the component; the root has none besides the separator. -/
def text : Component → String
  | root => ""
  | here => "."
  | up => ".."
  | name s => s

/-- The order of the kinds of components. -/
def rank : Component → Nat
  | root => 0
  | here => 1
  | up => 2
  | name _ => 3

/-- Whether a component comes before another or is equal to it. -/
def le (a b : Component) : Bool :=
  match a, b with
  | name s, name t => s ≤ t
  | _, _ => a.rank ≤ b.rank

end Component

/-- Whether the path starts at the root. -/
def isAbsolute (path : Path) : Bool := path.text.toList.head? == some '/'

/-- The component that a piece between separators stands for, if any. -/
def componentOf (first : Bool) (piece : List Char) : Option Component :=
  if piece = [] then none
  else if piece = ['.'] then if first then some .here else none
  else if piece = ['.', '.'] then some .up
  else some (.name (String.ofList piece))

/-- The components of a path. -/
def components (path : Path) : List Component :=
  match Text.piecesAt '/' path.text.toList with
  | [] => []
  | first :: more =>
    let start := if path.isAbsolute then some .root else componentOf true first
    start.toList ++ more.filterMap (componentOf false)

/-- Whether two paths have the same components. -/
def same (a b : Path) : Bool := a.components == b.components

/-- Whether a list of components comes before another or is equal to it. -/
def componentsLe : List Component → List Component → Bool
  | [], _ => true
  | _ :: _, [] => false
  | a :: as, b :: bs => if a = b then componentsLe as bs else a.le b

/-- Whether a path comes before another or is the same. -/
def le (a b : Path) : Bool := componentsLe a.components b.components

/-- The path of a list of components. -/
def ofComponents (components : List Component) : Path :=
  match components with
  | .root :: rest => ⟨"/" ++ "/".intercalate (rest.map Component.text)⟩
  | _ => ⟨"/".intercalate (components.map Component.text)⟩

/-- A path taken relative to another. -/
def join (base path : Path) : Path :=
  if path.isAbsolute then path
  else match base.text.toList.getLast? with
    | none => path
    | some '/' => ⟨base.text ++ path.text⟩
    | some _ => ⟨base.text ++ "/" ++ path.text⟩

/-- The path without its last component; none if there is no component to take away. -/
def parent? (path : Path) : Option Path :=
  match path.components with
  | [] | [.root] => none
  | components => some (ofComponents components.dropLast)

/-- The path without `.` components. -/
def clean (path : Path) : Path := ofComponents (path.components.filter (· != .here))

end Path

end StyleCheck

namespace StyleCheck.Path

/-! ## Displaying paths

The form in which reports show a path: forward slashes only, and no `./` in front. -/

/-- The text without every `./` that it starts with. -/
def dropHere : List Char → List Char
  | '.' :: '/' :: rest => dropHere rest
  | text => text

/-- The form in which reports show a path. -/
def display (path : Path) : String :=
  match dropHere (Text.replaceWith '\\' ['/'] path.text.toList) with
  | [] => "."
  | text => String.ofList text

end StyleCheck.Path

namespace StyleCheck

/-! ## Locations

A path with its `.` and `..` components resolved by their spelling alone: whether it starts at the
root, and the names on the way. A `..` with no name before it goes nowhere, so at the root it
stays at the root. -/

/-- A path without `.` and `..` components. -/
structure Location where
  absolute : Bool
  names : List String
  deriving DecidableEq, Repr

namespace Location

/-- The location one component further. -/
def step (location : Location) : Path.Component → Location
  | .root => ⟨true, []⟩
  | .here => location
  | .up => { location with names := location.names.dropLast }
  | .name s => { location with names := location.names ++ [s] }

/-- The location of a path. -/
def ofPath (path : Path) : Location := path.components.foldl step ⟨false, []⟩

/-- The path of a location. -/
def path (location : Location) : Path :=
  .ofComponents
    ((if location.absolute then [.root] else []) ++ location.names.map Path.Component.name)

/-- The lists of names that lead to something above, the longest first. -/
def above : List String → List (List String)
  | [] => []
  | name :: names => (above names).map (name :: ·) ++ [[]]

/-- The directories that contain the location, the closest first. -/
def directories (location : Location) : List Location :=
  (above location.names).map fun names => ⟨location.absolute, names⟩

/-- The names that lead from a directory to the location, if it is below the directory. -/
def namesFrom? (location directory : Location) : Option (List String) :=
  if directory.absolute = location.absolute then Text.dropWord? directory.names location.names
  else none

/-- The names joined by separators. -/
def relativePath (names : List String) : List Char := Text.join ['/'] (names.map String.toList)

end Location

end StyleCheck
