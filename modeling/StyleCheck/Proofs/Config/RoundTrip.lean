import StyleCheck.Config.Loading
import StyleCheck.Config.Template
import StyleCheck.Proofs.Toml.Document

/-!
# Configurations survive writing

**Theorem (`parse_render`).** What the text of a configuration is read as is that configuration,
for every configuration that was read from a text, whatever characters its strings have.

In between stand the settings of the configuration (`settings`, `switches`), which know both the
text of a value and the value. Their lines are the text that is written (`render_eq`), so that
text is read as their entries; and these set every option to what it was (`ofEntries_settings`).
Options that are unset are not written, and stay unset because that is their default. A number is
read only if it is a size, and every option that is set keeps the line length a size
(`maxLineLength_le_of_setOption`).
-/

namespace StyleCheck.Config

open Toml

variable {config : Config} {text : String}

/-! ## The settings of a configuration -/

theorem toList_lines (list : List String) :
    (String.join (list.map fun s => "    " ++ stringText s ++ ",\n")).toList =
      list.flatMap itemLine := by
  rw [String.toList_join, List.flatMap_map]
  exact congrArg list.flatMap (funext fun s => by simp [itemLine, stringText])

/-- A list of strings is shown on one line or on several. -/
theorem shows_stringsText (list : List String) :
    Shows (stringsText list).toList (.array (list.map .string)) := by
  unfold stringsText
  split
  · exact shows_array fun fuel rest hfuel => items?_lines [] hfuel
  next s =>
    have heq : ("[" ++ stringText s ++ "]").toList = '[' :: (write s.toList ++ [']']) := by
      simp [stringText]
    rw [heq]
    have hstart := startsToken_write s.toList
    refine shows_array fun fuel rest hfuel => ?_
    obtain ⟨fuel, rfl⟩ := Nat.exists_eq_add_of_le' (Nat.lt_of_le_of_lt hstart.length_pos hfuel)
    rw [hstart.skipFiller_append]
    exact items?_last s rest
  · have heq : ("[\n" ++ String.join (list.map fun s => "    " ++ stringText s ++ ",\n") ++
        "]").toList = '[' :: ('\n' :: list.flatMap itemLine ++ [']']) := by
      simp only [String.toList_append, toList_lines]
      rfl
    rw [heq]
    refine shows_array fun fuel rest hfuel => items?_lines list ?_
    have hlength := length_le_length_lines list
    simp only [List.length_cons] at hfuel
    omega

/-- A string. -/
def stringSetting (key : String) (isBare : IsBare key) (s : String) : Setting :=
  ⟨key, stringText s, .string s, isBare, by
    rw [stringText, String.toList_ofList]
    exact shows_string s⟩

/-- A truth value. -/
def booleanSetting (key : String) (isBare : IsBare key) (b : Bool) : Setting :=
  ⟨key, booleanText b, .boolean b, isBare, shows_boolean b⟩

/-- A size. -/
def sizeSetting (key : String) (isBare : IsBare key) (n : Nat) : Setting :=
  ⟨key, toString n, .integer (some n), isBare, shows_number n⟩

/-- A list of strings. -/
def stringsSetting (key : String) (isBare : IsBare key) (list : List String) : Setting :=
  ⟨key, stringsText list, .array (list.map .string), isBare, shows_stringsText list⟩

/-- The options of a configuration that are written, without the disabled checks. -/
def settings (config : Config) : List Setting :=
  (config.version.map (stringSetting "version" (by decide))).toList ++
  [stringsSetting "exclude" (by decide) config.exclude,
    booleanSetting "ignore_defaults" (by decide) config.ignoreDefaults,
    booleanSetting "gitignore" (by decide) config.gitignore,
    booleanSetting "spaces_after_tabs" (by decide) config.spacesAfterTabs,
    sizeSetting "max_line_length" (by decide) config.maxLineLength] ++
  (config.charset.map (stringSetting "charset" (by decide))).toList ++
  [booleanSetting "parallel" (by decide) config.parallel,
    stringSetting "format" (by decide) config.format.name]

/-- The switches of the disabled checks. -/
def switches (checks : DisabledChecks) : List Setting := [
  booleanSetting "trim_trailing_whitespace" (by decide) checks.trimTrailingWhitespace,
  booleanSetting "end_of_line" (by decide) checks.endOfLine,
  booleanSetting "insert_final_newline" (by decide) checks.insertFinalNewline,
  booleanSetting "indentation" (by decide) checks.indentation,
  booleanSetting "indent_size" (by decide) checks.indentSize,
  booleanSetting "max_line_length" (by decide) checks.maxLineLength]

theorem optionLines_eq (config : Config) :
    config.optionLines = config.settings.map Setting.line := by
  unfold optionLines settings
  cases config.version <;> cases config.charset <;> rfl

theorem switchLines_eq (checks : DisabledChecks) :
    switchLines checks = (switches checks).map Setting.line := rfl

theorem render_eq (config : Config) :
    config.render = document config.settings "disable" (switches config.disable) := by
  rw [render, document, optionLines_eq, switchLines_eq]
  rfl

theorem nodup_settings (config : Config) :
    (config.settings.map Setting.key ++ ["disable"]).Nodup := by
  have hall : ["version", "exclude", "ignore_defaults", "gitignore", "spaces_after_tabs",
      "max_line_length", "charset", "parallel", "format", "disable"].Nodup := by decide
  refine hall.sublist ?_
  unfold settings
  cases config.version <;> cases config.charset <;>
    simp [stringSetting, stringsSetting, booleanSetting, sizeSetting]

theorem nodup_switches (checks : DisabledChecks) : ((switches checks).map Setting.key).Nodup := by
  have hall : switchKeys.Nodup := by decide
  exact hall

/-! ## Reading the settings -/

theorem asStrings_map (key : String) (list : List String) :
    asStrings key (.array (list.map .string)) = .ok list := by
  show (list.map Value.string).mapM (asString key) = .ok list
  induction list with
  | nil => rfl
  | cons s list ih =>
    rw [List.map_cons, List.mapM_cons, ih]
    rfl

theorem asDisabledChecks_switches (key : String) (origin : Origin) (checks : DisabledChecks) :
    asDisabledChecks key (.table origin ((switches checks).map Setting.entry)) = .ok checks := by
  rfl

theorem formatNamed?_name (format : Output.Format) : formatNamed? format.name = some format := by
  cases format <;> decide

theorem asSize_integer (key : String) {n : Nat} (h : n ≤ Text.maxSize) :
    asSize key (.integer (some n)) = .ok n :=
  if_pos ⟨Int.natCast_nonneg n, Int.ofNat_le.2 h⟩

/-- **The settings of a configuration give it back.** -/
theorem ofEntries_settings (h : config.maxLineLength ≤ Text.maxSize) :
    ofEntries (config.settings.map Setting.entry ++
      [("disable", .table .header ((switches config.disable).map Setting.entry))]) =
        .ok config := by
  obtain ⟨version, exclude, ignoreDefaults, gitignore, spacesAfterTabs, maxLineLength, charset,
    parallel, format, disable⟩ := config
  have hstrings := asStrings_map "exclude" exclude
  have hsize := asSize_integer "max_line_length" h
  have hformat := formatNamed?_name format
  have hdisable := asDisabledChecks_switches "disable" .header disable
  -- An option that is unset has no setting, so the list is another one in each case.
  cases version <;> cases charset <;>
    simp [ofEntries, settings, stringSetting, stringsSetting, booleanSetting, sizeSetting,
      Setting.entry, setOption, asString, asBoolean, asFormat, hstrings, hsize, hformat, hdisable,
      bind, pure, Except.bind, Except.pure]

/-! ## What was read -/

theorem exists_of_bind_pure {α : Type} {read : Except Fault α} {set : α → Config}
    (h : (read >>= fun value => pure (set value)) = .ok config) :
    ∃ value, read = .ok value ∧ set value = config := by
  cases read with
  | error fault => cases h
  | ok value => exact ⟨value, rfl, Except.ok.inj h⟩

theorem le_of_asSize {key : String} {value : Value} {n : Nat} (h : asSize key value = .ok n) :
    n ≤ Text.maxSize := by
  unfold asSize at h
  split at h
  next size =>
    split at h
    next hsize =>
      cases h
      exact Int.toNat_le.2 hsize.2
    · cases h
  · cases h

theorem maxLineLength_le_of_setOption {after : Config} {entry : String × Value}
    (h : setOption config entry = .ok after) (hle : config.maxLineLength ≤ Text.maxSize) :
    after.maxLineLength ≤ Text.maxSize := by
  obtain ⟨key, value⟩ := entry
  simp only [setOption] at h
  split at h
  case h_6 =>
    -- The line length itself was read as a size.
    obtain ⟨n, hread, rfl⟩ := exists_of_bind_pure h
    exact le_of_asSize hread
  case h_11 => cases h
  -- Every other option leaves it alone.
  all_goals
    obtain ⟨_, -, rfl⟩ := exists_of_bind_pure h
    exact hle

theorem maxLineLength_le_of_foldlM {after : Config} {entries : Entries}
    (h : entries.foldlM setOption config = .ok after) (hle : config.maxLineLength ≤ Text.maxSize) :
    after.maxLineLength ≤ Text.maxSize := by
  induction entries generalizing config with
  | nil =>
    cases h
    exact hle
  | cons entry entries ih =>
    rw [List.foldlM_cons] at h
    cases hset : setOption config entry with
    | error fault =>
      rw [hset] at h
      cases h
    | ok next =>
      rw [hset] at h
      exact ih h (maxLineLength_le_of_setOption hset hle)

/-- What is read makes sense, and its line length is a size. -/
theorem valid_of_parse (h : parse text = .ok config) :
    config.validate = .ok config ∧ config.maxLineLength ≤ Text.maxSize := by
  unfold parse at h
  split at h
  · cases h
  next read hread =>
    have heq : read = config := by
      unfold validate at h
      split at h <;> cases h
      rfl
    subst heq
    refine ⟨h, ?_⟩
    cases hdocument : Toml.parse text.toList with
    | error fault =>
      rw [hdocument] at hread
      cases hread
    | ok entries =>
      rw [hdocument] at hread
      exact maxLineLength_le_of_foldlM hread (Nat.zero_le _)

/-! ## Main result -/

theorem ok_of_toOption {read : Except Failure Config} (h : read.toOption = some config) :
    read = .ok config := by
  cases read with
  | error failure => cases h
  | ok read => exact congrArg Except.ok (Option.some.inj h)

/-- **A configuration that was read survives writing.** -/
theorem parse_render (h : parse text = .ok config) : parse config.render = .ok config := by
  obtain ⟨hvalid, hsize⟩ := valid_of_parse h
  have hdocument := parse_document (by decide : IsBare "disable") (nodup_settings config)
    (nodup_switches config.disable)
  rw [render_eq]
  simp only [parse, hdocument, Except.bind, ofEntries_settings hsize]
  exact hvalid

/-- Strings with quotes, backslashes, control characters and line feeds, and a number that no
signed integer holds. -/
theorem parse_render_quotes :
    let text := "version = '1'\nexclude = ['a\\\"b', \"\\u0001'\\n\"]\n" ++
      "max_line_length = 0xffff_ffff_ffff_ffff\ncharset = \"latin1\"\nformat = 'gcc'\n" ++
      "[disable]\nindentation = true"
    let config : Config :=
      { version := "1", exclude := ["a\\\"b", "\x01'\n"], maxLineLength := 18446744073709551615
        charset := "latin1", format := .gcc, disable := { indentation := true } }
    parse text = .ok config ∧ parse config.render = .ok config := by
  intro text config
  have h : parse text = .ok config := ok_of_toOption (by decide +kernel)
  exact ⟨h, parse_render h⟩

end StyleCheck.Config
