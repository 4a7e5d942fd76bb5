import StyleCheck.Validation.Finding
import StyleCheck.Validation.Rule

/-!
# Checking content

The errors of decoded content come in a fixed order: the final newline, the line ends, then line
by line trailing whitespace, indentation and length. Markers in the text exempt lines: a line with
the line marker, and the lines after a start marker up to, but not including, the next line with
an end marker. The file marker on the first line exempts the whole file and is looked for by the
caller.
-/

namespace StyleCheck

/-- A mark in the text of a file that exempts lines from the checks. -/
inductive Marker
  /-- On the first line: skip the file. -/
  | file
  /-- Skip the line. -/
  | line
  /-- Skip the lines after this one. -/
  | start
  /-- Stop skipping, from this line on. -/
  | stop

namespace Marker

/-- The text of the marker. -/
def text : Marker → String
  | file => "ec-guard:disable-file"
  | line => "ec-guard:disable-line"
  | start => "ec-guard:disable-start"
  | stop => "ec-guard:disable-end"

/-- Whether the marker occurs in a line. -/
def occursIn (marker : Marker) (line : List Char) : Bool := Text.hasWord marker.text.toList line

end Marker

namespace Validation

/-- The errors of one line. -/
def lineFindings (line : List Char) (index : Nat) (settings : EditorSettings)
    (options : CheckOptions) : List Finding :=
  let disabled := options.disabled
  let checks := [
    if disabled.trimTrailingWhitespace then none
    else Rule.trailingWhitespace line settings.trimTrailingWhitespace,
    if disabled.indentation then none
    else Rule.indentation line settings.indentStyle settings.indentSize options,
    if disabled.maxLineLength then none
    else Rule.maxLineLength line settings.maxLineLength settings.charset]
  (checks.filterMap id).map (Finding.ofViolation (some index))

/-- The errors of the lines from number `index` on. `skipping` says whether a start marker is in
force. -/
def linesFindings (settings : EditorSettings) (options : CheckOptions) :
    (skipping : Bool) → (index : Nat) → List (List Char) → List Finding
  | _, _, [] => []
  | skipping, index, line :: lines =>
    if skipping && !Marker.stop.occursIn line then
      linesFindings settings options true (index + 1) lines
    else
      let skipping := !skipping && Marker.start.occursIn line
      (if Marker.line.occursIn line then [] else lineFindings line index settings options) ++
        linesFindings settings options skipping (index + 1) lines

/-- The errors of the content as a whole. -/
def wholeFindings (content : List Char) (settings : EditorSettings) (options : CheckOptions) :
    List Finding :=
  if content.isEmpty then []
  else
    let disabled := options.disabled
    let checks := [
      if disabled.insertFinalNewline then none
      else Rule.finalNewline content settings.insertFinalNewline settings.endOfLine,
      if disabled.endOfLine then none else Rule.lineEnding content settings.endOfLine]
    (checks.filterMap id).map (Finding.ofViolation none)

/-- The errors of decoded content. -/
def contentFindings (content : List Char) (settings : EditorSettings) (options : CheckOptions) :
    List Finding :=
  wholeFindings content settings options ++
    linesFindings settings options false 0 (Text.lines content)

end Validation

end StyleCheck
