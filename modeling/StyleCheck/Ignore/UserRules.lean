import StyleCheck.Ignore.DirectoryRules

/-!
# Ignore rules of the user

The ignore file of a user applies everywhere. Its place is an entry `excludesfile` of one of the
user's two configuration files; without such an entry the file has a fixed place.

The configuration files are not read by their grammar: the entry is whatever looks like one at the
start of a line.
-/

namespace StyleCheck.Ignore

/-- The configuration files of a user, from the user's directory. -/
def userConfigurations : List Path := [⟨".gitconfig"⟩, ⟨".config/git/config"⟩]

/-- The ignore file of a user that has no entry for it, from the user's directory. -/
def userFile : Path := ⟨".config/git/ignore"⟩

/-! ## The entry -/

/-- The bytes that count as blank. -/
def isBlankByte (b : UInt8) : Bool := b == 0x20 || (0x09 ≤ b && b ≤ 0x0D)

/-- The text without the blanks it starts with. -/
def skipBlankBytes (text : List UInt8) : List UInt8 := text.dropWhile isBlankByte

/-- What follows the word in a text that starts with it in any mix of cases. -/
def dropAnyCase? : (word : List Char) → List UInt8 → Option (List UInt8)
  | [], text => some text
  | _ :: _, [] => none
  | c :: word, b :: text =>
    if b.toNat == c.toNat || b.toNat + 32 == c.toNat then dropAnyCase? word text else none

/-- Whether only blanks follow up to the end of a line. -/
def endsLine (text : List UInt8) : Bool :=
  (text.takeWhile isBlankByte).contains 0x0A || (skipBlankBytes text).isEmpty

/-- Whether only blanks and perhaps a quote among them follow up to the end of a line. -/
def endsEntry (text : List UInt8) : Bool :=
  endsLine text ||
    match skipBlankBytes text with
    | 0x22 :: rest => endsLine rest
    | _ => false

/-- The shortest text without blanks after which the entry ends. `before` holds what is read of it,
in reverse. -/
def entryValue? (before : List UInt8) : List UInt8 → Option (List UInt8)
  | [] => none
  | b :: rest =>
    if isBlankByte b then none
    else if endsEntry rest then some (b :: before).reverse
    else entryValue? (b :: before) rest

/-- The value of the entry that starts a text. -/
def entryAt? (text : List UInt8) : Option (List UInt8) := do
  let rest ← dropAnyCase? "excludesfile".toList (skipBlankBytes text)
  match skipBlankBytes rest with
  | 0x3D :: rest =>
    let start := skipBlankBytes rest
    let unquoted := match start with
      | 0x22 :: rest => entryValue? [] (skipBlankBytes rest)
      | _ => none
    unquoted.or (entryValue? [] start)
  | _ => none

/-- The value of the first entry in a text of which `lineStart` says whether it starts a line. -/
def entryIn? (lineStart : Bool) : List UInt8 → Option (List UInt8)
  | [] => none
  | b :: rest =>
    ((if lineStart then entryAt? (b :: rest) else none)).or (entryIn? (b == 0x0A) rest)

/-! ## The ignore file -/

/-- The path of an entry. Each `~` in it stands for the user's directory. -/
def entryPath? (home : Path) (value : List UInt8) : Option Path :=
  (Text.Utf8.decode? value).map fun text =>
    ⟨String.ofList (Text.replaceWith '~' home.text.toList text)⟩

/-- The path of the user's ignore file. -/
def userPath (disk : Disk) (home : Path) : Path :=
  let entries := userConfigurations.filterMap fun file =>
    (disk.read (home.join file)).toOption.bind fun content =>
      (entryIn? true content).bind (entryPath? home)
  entries.headD (home.join userFile)

/-- The rules of the user's ignore file. -/
def userRules (disk : Disk) (home : Path) : List Rule :=
  DirectoryRules.ofFile disk (userPath disk home)

end StyleCheck.Ignore
