import StyleCheck.Charset.Basic
import StyleCheck.Failure
import StyleCheck.Output.Format
import StyleCheck.Settings

/-!
# Configurations

The options of a run as a configuration file gives them, their defaults, and which configurations
make no sense: those of another version, with an exclude pattern that is no glob, or with an
unknown charset. Of several problems the first one in this order is reported.
-/

namespace StyleCheck

/-- The options of a run. -/
structure Config where
  version : Option String := none
  /-- Exclude patterns besides the default ones. -/
  exclude : List String := []
  /-- Leave the default exclude patterns out. -/
  ignoreDefaults : Bool := false
  /-- Skip what ignore files name. -/
  gitignore : Bool := true
  spacesAfterTabs : Bool := false
  maxLineLength : Nat := 0
  charset : Option String := none
  parallel : Bool := true
  format : Output.Format := .summary
  disable : DisabledChecks := {}
  deriving DecidableEq, Repr

namespace Config

/-- The version of configurations that is supported. -/
def supportedVersion : String := "1"

/-- The exclude patterns that apply unless they are left out: what version control keeps,
dependencies, lock files, generated files and formats that are not text. -/
def defaultExcludes : List String := [
  "**/.git/**",
  "**/.hg/**",
  "**/.svn/**",
  "**/.bzr/**",
  "**/node_modules/**",
  "**/*.lock",
  "**/package-lock.json",
  "**/pnpm-lock.yaml",
  "**/go.sum",
  "**/*.min.js",
  "**/*.min.css",
  "**/*.map",
  "**/*.patch",
  "**/*.diff",
  "**/*.\x7bpng,jpg,jpeg,gif,bmp,ico,webp,tif,tiff,psd\x7d",
  "**/*.\x7bmp3,mp4,wav,ogg,flac,avi,mov,mkv,webm\x7d",
  "**/*.\x7bttf,otf,woff,woff2,eot\x7d",
  "**/*.\x7bpdf,doc,docx,xls,xlsx,ppt,pptx\x7d",
  "**/*.\x7bzip,tar,gz,tgz,bz2,xz,7z,rar,jar,war\x7d",
  "**/*.\x7bexe,dll,so,dylib,a,o,obj,class,pyc,wasm\x7d"]

/-- The exclude patterns in effect. -/
def excludes (config : Config) : List String :=
  (if config.ignoreDefaults then [] else defaultExcludes) ++ config.exclude

/-- The options of the checks. -/
def checkOptions (config : Config) : CheckOptions where
  disabled := config.disable
  spacesAfterTabs := config.spacesAfterTabs
  maxLineLength := config.maxLineLength
  charset := config.charset

/-! ## Validity -/

/-- The first of several patterns that is no glob. -/
def badPattern? (patterns : List String) : Option (String × Exclude.GlobError) :=
  patterns.findSome? fun pattern =>
    match Exclude.Glob.ofPattern .exclude pattern with
    | .ok _ => none
    | .error error => some (pattern, error)

/-- What makes the configuration senseless, if anything does. -/
def fault? (config : Config) : Option Failure :=
  let version := (config.version.filter (· != supportedVersion)).map fun version =>
    Failure.config ("Unsupported config version '" ++ version ++ "'. Only version '" ++
      supportedVersion ++ "' is supported.")
  let exclude := (badPattern? config.exclude).map fun (pattern, error) =>
    Failure.invalidPattern pattern error
  let charset := (config.charset.filter fun name => (Charset.ofName? name).isNone).map fun name =>
    Failure.config ("Unknown charset '" ++ name ++ "'")
  version.or (exclude.or charset)

/-- The configuration, unless it makes no sense. -/
def validate (config : Config) : Except Failure Config :=
  match config.fault? with
  | some failure => .error failure
  | none => .ok config

end Config

end StyleCheck
