import StyleCheck.Charset.Basic
import StyleCheck.Charset.Detection
import StyleCheck.Charset.EastAsian
import StyleCheck.Charset.Gb18030
import StyleCheck.Charset.Guess
import StyleCheck.Charset.Guess.Alphabet
import StyleCheck.Charset.Guess.Alphabet.Latin
import StyleCheck.Charset.Guess.Alphabet.Native
import StyleCheck.Charset.Guess.Latin
import StyleCheck.Charset.Guess.Native
import StyleCheck.Charset.Guess.Ordinal
import StyleCheck.Charset.Guess.Wide
import StyleCheck.Charset.Reader
import StyleCheck.Charset.Table.Big5
import StyleCheck.Charset.Table.Chinese
import StyleCheck.Charset.Table.Jis0208
import StyleCheck.Charset.Table.Jis0212
import StyleCheck.Charset.Table.Korean
import StyleCheck.Charset.Table.SingleByte
import StyleCheck.Command.Check
import StyleCheck.Command.Run
import StyleCheck.Command.Session
import StyleCheck.CommandLine.Arguments
import StyleCheck.CommandLine.Grammar
import StyleCheck.CommandLine.Parse
import StyleCheck.Config.Basic
import StyleCheck.Config.Loading
import StyleCheck.Config.Template
import StyleCheck.Digest.Sha256
import StyleCheck.Disk.Basic
import StyleCheck.EditorConfig.File
import StyleCheck.EditorConfig.Resolver
import StyleCheck.Exclude.Filter
import StyleCheck.Failure
import StyleCheck.Ignore.DirectoryRules
import StyleCheck.Ignore.InForce
import StyleCheck.Ignore.Rule
import StyleCheck.Ignore.UserRules
import StyleCheck.Main
import StyleCheck.Output.CodeClimate
import StyleCheck.Output.Entry
import StyleCheck.Output.Format
import StyleCheck.Output.Log
import StyleCheck.Output.Style
import StyleCheck.Path.Basic
import StyleCheck.Proofs.Charset.Ascii
import StyleCheck.Proofs.Charset.Decoding
import StyleCheck.Proofs.Charset.Hz
import StyleCheck.Proofs.Charset.Ranking
import StyleCheck.Proofs.Charset.Stretches
import StyleCheck.Proofs.Charset.Tables
import StyleCheck.Proofs.Command.Exit
import StyleCheck.Proofs.Config.RoundTrip
import StyleCheck.Proofs.EditorConfig.Chain
import StyleCheck.Proofs.EditorConfig.Contents
import StyleCheck.Proofs.EditorConfig.Layout
import StyleCheck.Proofs.EditorConfig.LineGrammar
import StyleCheck.Proofs.EditorConfig.Lines
import StyleCheck.Proofs.EditorConfig.Memory
import StyleCheck.Proofs.EditorConfig.Outline
import StyleCheck.Proofs.EditorConfig.Precedence
import StyleCheck.Proofs.EditorConfig.Reach
import StyleCheck.Proofs.EditorConfig.Spellings
import StyleCheck.Proofs.Order
import StyleCheck.Proofs.Output.Agreement
import StyleCheck.Proofs.Output.Identity
import StyleCheck.Proofs.Output.Notice
import StyleCheck.Proofs.Output.Records
import StyleCheck.Proofs.Path.Directories
import StyleCheck.Proofs.Path.Display
import StyleCheck.Proofs.Path.Here
import StyleCheck.Proofs.Path.NormalForm
import StyleCheck.Proofs.Path.Spelling
import StyleCheck.Proofs.Regex.Avoiding
import StyleCheck.Proofs.Regex.Parentheses
import StyleCheck.Proofs.Regex.Prefix
import StyleCheck.Proofs.Regex.Reading
import StyleCheck.Proofs.Regex.Ways
import StyleCheck.Proofs.Section.Basename
import StyleCheck.Proofs.Section.Braces
import StyleCheck.Proofs.Section.BracketSet
import StyleCheck.Proofs.Section.Captures
import StyleCheck.Proofs.Section.Compilation
import StyleCheck.Proofs.Section.Judgement
import StyleCheck.Proofs.Section.Listing
import StyleCheck.Proofs.Section.Nesting
import StyleCheck.Proofs.Section.Preference
import StyleCheck.Proofs.Section.Reading
import StyleCheck.Proofs.Section.Source
import StyleCheck.Proofs.Section.Ways
import StyleCheck.Proofs.Selection.Distinct
import StyleCheck.Proofs.Selection.Excluding
import StyleCheck.Proofs.Text.FirstLine
import StyleCheck.Proofs.Text.Lines
import StyleCheck.Proofs.Text.Partition
import StyleCheck.Proofs.Text.Records
import StyleCheck.Proofs.Text.Trim
import StyleCheck.Proofs.Text.Utf16
import StyleCheck.Proofs.Text.Utf32
import StyleCheck.Proofs.Text.Utf8
import StyleCheck.Proofs.Toml.Document
import StyleCheck.Proofs.Toml.Strings
import StyleCheck.Proofs.Toml.Values
import StyleCheck.Proofs.Validation.ByteOrderMark
import StyleCheck.Proofs.Validation.Consolidation
import StyleCheck.Proofs.Validation.Content
import StyleCheck.Proofs.Validation.Disabling
import StyleCheck.Proofs.Validation.Endings
import StyleCheck.Proofs.Validation.ExemptText
import StyleCheck.Proofs.Validation.Exemption
import StyleCheck.Proofs.Validation.FileMarker
import StyleCheck.Proofs.Validation.Indentation
import StyleCheck.Proofs.Validation.LineLength
import StyleCheck.Proofs.Validation.Runs
import StyleCheck.Proofs.Validation.Schedules
import StyleCheck.Regex.Basic
import StyleCheck.Regex.Syntax
import StyleCheck.Section.Glob
import StyleCheck.Section.Pattern
import StyleCheck.Selection.Basic
import StyleCheck.Settings
import StyleCheck.Text.Basic
import StyleCheck.Text.Case
import StyleCheck.Text.Lines
import StyleCheck.Text.Utf16
import StyleCheck.Text.Utf8
import StyleCheck.Toml.Quoted
import StyleCheck.Toml.Scalar
import StyleCheck.Toml.Statement
import StyleCheck.Toml.Writer
import StyleCheck.Validation.Content
import StyleCheck.Validation.Finding
import StyleCheck.Validation.Report
import StyleCheck.Validation.Rule
import StyleCheck.Validation.Violation
import StyleCheck.Validation.Workers
