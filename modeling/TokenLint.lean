import TokenLint.Analysis.FileReport
import TokenLint.Analysis.Pipeline
import TokenLint.Command.Basic
import TokenLint.Command.Machine
import TokenLint.Command.Shell
import TokenLint.Command.Shell.Builtin
import TokenLint.Command.Shell.Expansion
import TokenLint.Command.Shell.Pattern
import TokenLint.Command.Shell.Run
import TokenLint.Command.Shell.Script
import TokenLint.Command.Shell.Session
import TokenLint.Command.Shell.Sign
import TokenLint.Command.Shell.Sum
import TokenLint.Command.Utility.Basic
import TokenLint.Command.Utility.Condition
import TokenLint.Command.Utility.Expression
import TokenLint.Command.Utility.Filter
import TokenLint.Command.Utility.Writing
import TokenLint.CommandLine.Activity
import TokenLint.CommandLine.Arguments
import TokenLint.CommandLine.Option
import TokenLint.CommandLine.Run
import TokenLint.CommandLine.Usage
import TokenLint.Data.Conversion
import TokenLint.Data.Json
import TokenLint.Data.Moment
import TokenLint.Data.Payload
import TokenLint.Diagnostic
import TokenLint.Discovery
import TokenLint.Failure.Basic
import TokenLint.Failure.Breakdown
import TokenLint.Failure.Kind
import TokenLint.FileTree
import TokenLint.Glob
import TokenLint.Lexer.Lex
import TokenLint.Lexer.Lexeme
import TokenLint.Lexer.Scan
import TokenLint.Lexer.Source
import TokenLint.Log.Entry
import TokenLint.Log.Instant
import TokenLint.Log.Record
import TokenLint.Log.Settings
import TokenLint.Log.Template
import TokenLint.Main
import TokenLint.Number.Binary64
import TokenLint.Number.Places
import TokenLint.Number.Reading
import TokenLint.Number.Shortest
import TokenLint.Ordered
import TokenLint.Path
import TokenLint.Progress
import TokenLint.Proofs.Analysis.Schedule
import TokenLint.Proofs.Ordered
import TokenLint.Proofs.Text.Line
import TokenLint.Proofs.Token.Coverage
import TokenLint.Proofs.Token.Offset
import TokenLint.Proofs.Token.Position
import TokenLint.Proofs.Token.Tiling
import TokenLint.Report
import TokenLint.Rule.Basic
import TokenLint.Rule.BlankLines
import TokenLint.Rule.Builtin
import TokenLint.Rule.Factory
import TokenLint.Rule.LineLength
import TokenLint.Rule.OptionModel
import TokenLint.Rule.Registry
import TokenLint.Rule.Whitespace
import TokenLint.Settings.Basic
import TokenLint.Settings.Load
import TokenLint.Settings.Parse
import TokenLint.Settings.Reading
import TokenLint.Settings.Value
import TokenLint.Settings.Violation
import TokenLint.Summary
import TokenLint.SyntaxCheck
import TokenLint.Text.Blank
import TokenLint.Text.Casing
import TokenLint.Text.Digit
import TokenLint.Text.Line
import TokenLint.Text.Lower
import TokenLint.Text.Printable
import TokenLint.Text.Quoted
import TokenLint.Text.Utf8
import TokenLint.Token.Basic
import TokenLint.Token.Kind
import TokenLint.Token.Operator
import TokenLint.Token.Stream
import TokenLint.Token.Tokenize
import TokenLint.Toml.Document
import TokenLint.Toml.Quoting
import TokenLint.Toml.Reader
import TokenLint.Toml.Scalar
import TokenLint.Vocabulary
import TokenLint.Proofs.Analysis.Isolation
import TokenLint.Proofs.Text.Returns
import TokenLint.Proofs.Token.Agreement
import TokenLint.Proofs.Token.Returns
import TokenLint.Proofs.Rule.Returns
import TokenLint.Proofs.Rule.Anchor
import TokenLint.Proofs.Analysis.Containment
import TokenLint.Proofs.Report.Filing
import TokenLint.Proofs.Report.Count
import TokenLint.Proofs.Report.Journal
import TokenLint.Proofs.Report.Faithful
import TokenLint.Proofs.Analysis.Halting
import TokenLint.Proofs.CommandLine.Events
import TokenLint.Proofs.Data.Json
import TokenLint.Proofs.CommandLine.Trace
import TokenLint.Proofs.Result
import TokenLint.Proofs.Settings.Outcome
import TokenLint.Proofs.CommandLine.Arguments
import TokenLint.Proofs.CommandLine.Outcome
import TokenLint.Proofs.Text.PhysicalLine
import TokenLint.Proofs.Text.Blank
import TokenLint.Proofs.Rule.ByLine
import TokenLint.Proofs.Rule.Registry
import TokenLint.Proofs.CommandLine.Verdict
import TokenLint.Proofs.Text.LineStart
import TokenLint.Proofs.Token.Layout
import TokenLint.Proofs.Rule.Indentation
import TokenLint.Proofs.Rule.BlankRun
import TokenLint.Proofs.Settings.Search
import TokenLint.Proofs.Token.EffectivePlace
import TokenLint.Proofs.Discovery
import TokenLint.Proofs.Text.Lower
import TokenLint.Proofs.Rule.Severity
import TokenLint.Proofs.Rule.Building
import TokenLint.Proofs.Rule.Resolution
import TokenLint.Proofs.Rule.Naming
import TokenLint.Proofs.Settings.Reading
import TokenLint.Proofs.Settings.NormalForm
import TokenLint.Proofs.Settings.Options
import TokenLint.Proofs.SyntaxCheck
import TokenLint.Proofs.Data.Grammar
import TokenLint.Proofs.Data.Payload
import TokenLint.Proofs.FirstOccurrence
import TokenLint.Proofs.Report.Progress
import TokenLint.Proofs.Token.Cursor
