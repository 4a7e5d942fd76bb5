import StyleCheck.Config.Basic
import StyleCheck.Text.Basic
import StyleCheck.Toml.Statement

/-!
# Reading and finding configurations

A configuration is read from a TOML document, and is found in a file.
-/

namespace StyleCheck.Config

/-! ## Reading configurations

A configuration as a TOML document. Every option has a key and a type; options that are left out
have their defaults, and a key that is no option is an error. The switches of the disabled checks
may also be given as a list in their fixed order, and a format as a table with its name as the
only key. -/

open Toml

/-! ## Types -/

/-- A string. -/
def asString (key : String) : Value → Except Fault String
  | .string s => .ok s
  | _ => .error (.wrongType key)

/-- A truth value. -/
def asBoolean (key : String) : Value → Except Fault Bool
  | .boolean b => .ok b
  | _ => .error (.wrongType key)

/-- A size. -/
def asSize (key : String) : Value → Except Fault Nat
  | .integer (some n) => if 0 ≤ n ∧ n ≤ Text.maxSize then .ok n.toNat else .error (.wrongType key)
  | _ => .error (.wrongType key)

/-- A list of strings. -/
def asStrings (key : String) : Value → Except Fault (List String)
  | .array items => items.mapM (asString key)
  | _ => .error (.wrongType key)

/-- The format with exactly this name. -/
def formatNamed? (name : String) : Option Output.Format :=
  [Output.Format.summary, .gcc, .workflow, .codeClimate].find? (·.name == name)

/-- A format. -/
def asFormat (key : String) : Value → Except Fault Output.Format
  | .string name => (formatNamed? name).elim (.error (.wrongType key)) .ok
  | .table _ [(name, .table _ [])] | .table _ [(name, .array [])] =>
    (formatNamed? name).elim (.error (.wrongType key)) .ok
  | _ => .error (.wrongType key)

/-! ## Disabled checks -/

/-- Set a switch. -/
def setSwitch (checks : DisabledChecks) (key : String) (b : Bool) : Except Fault DisabledChecks :=
  match key with
  | "trim_trailing_whitespace" => .ok { checks with trimTrailingWhitespace := b }
  | "end_of_line" => .ok { checks with endOfLine := b }
  | "insert_final_newline" => .ok { checks with insertFinalNewline := b }
  | "indentation" => .ok { checks with indentation := b }
  | "indent_size" => .ok { checks with indentSize := b }
  | "max_line_length" => .ok { checks with maxLineLength := b }
  | _ => .error (.unknownKey key)

/-- The keys of the switches, in their order. -/
def switchKeys : List String :=
  ["trim_trailing_whitespace", "end_of_line", "insert_final_newline", "indentation",
    "indent_size", "max_line_length"]

/-- Set the switch that an entry names. -/
def setSwitchEntry (checks : DisabledChecks) (entry : String × Value) :
    Except Fault DisabledChecks := do
  setSwitch checks entry.1 (← asBoolean entry.1 entry.2)

/-- The switches of the disabled checks. -/
def asDisabledChecks (key : String) : Value → Except Fault DisabledChecks
  | .table _ entries => entries.foldlM setSwitchEntry {}
  | .array items => (switchKeys.zip items).foldlM setSwitchEntry {}
  | _ => .error (.wrongType key)

/-! ## Configurations -/

/-- Set the option that an entry names. -/
def setOption (config : Config) (entry : String × Value) : Except Fault Config :=
  let (key, value) := entry
  match key with
  | "version" => do pure { config with version := some (← asString key value) }
  | "exclude" => do pure { config with exclude := ← asStrings key value }
  | "ignore_defaults" => do pure { config with ignoreDefaults := ← asBoolean key value }
  | "gitignore" => do pure { config with gitignore := ← asBoolean key value }
  | "spaces_after_tabs" => do pure { config with spacesAfterTabs := ← asBoolean key value }
  | "max_line_length" => do pure { config with maxLineLength := ← asSize key value }
  | "charset" => do pure { config with charset := some (← asString key value) }
  | "parallel" => do pure { config with parallel := ← asBoolean key value }
  | "format" => do pure { config with format := ← asFormat key value }
  | "disable" => do pure { config with disable := ← asDisabledChecks key value }
  | _ => .error (.unknownKey key)

/-- The configuration of a document. -/
def ofEntries (entries : Entries) : Except Fault Config := entries.foldlM setOption {}

/-- The configuration of a text, unless it is no document, no configuration, or makes no sense. -/
def parse (text : String) : Except Failure Config :=
  match (Toml.parse text.toList).bind ofEntries with
  | .error fault => .error (.tomlParse fault.message)
  | .ok config => config.validate

end StyleCheck.Config

namespace StyleCheck.Config

/-! ## Finding the configuration

The configuration file of a run: the one that is asked for, or else the one in the current
directory, or else the user's; without any of them the defaults hold. -/

/-- The name of a configuration file in the current directory. -/
def localName : Path := ⟨".ec-guard.toml"⟩

/-- The name of the user's configuration file in the directory for configurations. -/
def userName : Path := ⟨"config.toml"⟩

/-- A configuration and the file that it comes from. -/
structure Loaded where
  config : Config
  source : Option Path
  deriving DecidableEq, Repr

/-- The configuration in a file. -/
def loadFrom (fs : FileSystem) (path : Path) : Except Failure Loaded :=
  match fs.readText path with
  | .error cause => .error (.fileRead path cause)
  | .ok text => (parse text).map fun config => ⟨config, some path⟩

/-- The places where a configuration file is looked for, in their order. -/
def places (fs : FileSystem) : List Path :=
  (fs.currentDirectory.toOption.map (·.join localName)).toList ++
    (fs.configDirectory.map (·.join userName)).toList

/-- The configuration that is found. -/
def discover (fs : FileSystem) : Except Failure Loaded :=
  match (places fs).find? fs.isFile with
  | some path => loadFrom fs path
  | none => .ok ⟨{}, none⟩

end StyleCheck.Config
