import TypeLint.Command.Arguments
import TypeLint.Command.Run
import TypeLint.Command.Usage
import TypeLint.Files.Path
import TypeLint.Files.Tree
import TypeLint.Json.Basic
import TypeLint.Json.Display
import TypeLint.Json.Reader
import TypeLint.Json.Writer
import TypeLint.Lint.Config
import TypeLint.Lint.Linter
import TypeLint.Number.Binary64
import TypeLint.Number.Shortest
import TypeLint.Pattern.Charset
import TypeLint.Pattern.Cursor
import TypeLint.Pattern.Error
import TypeLint.Pattern.Escape
import TypeLint.Pattern.Match
import TypeLint.Pattern.Option
import TypeLint.Pattern.Parse
import TypeLint.Pattern.Progress
import TypeLint.Pattern.Regex
import TypeLint.Pattern.Width
import TypeLint.Proofs.Lint.Compose
import TypeLint.Proofs.Lint.Coverage
import TypeLint.Proofs.Lint.Places
import TypeLint.Proofs.Report.Order
import TypeLint.Proofs.Rule.Route
import TypeLint.Proofs.Source.Embed
import TypeLint.Proofs.Source.Focus
import TypeLint.Proofs.Source.Heads
import TypeLint.Proofs.Source.Lines
import TypeLint.Proofs.Source.Move
import TypeLint.Proofs.Source.Nesting
import TypeLint.Proofs.Source.Places
import TypeLint.Proofs.Source.Reading
import TypeLint.Proofs.Source.Scan
import TypeLint.Proofs.Tree.Address
import TypeLint.Proofs.Tree.References
import TypeLint.Proofs.Tree.Relocate
import TypeLint.Proofs.Tree.Shape
import TypeLint.Report.Diagnostic
import TypeLint.Report.Span
import TypeLint.Rule.Ban
import TypeLint.Rule.BanTypes
import TypeLint.Rule.Mention
import TypeLint.Rule.Reporter
import TypeLint.Rule.Schema
import TypeLint.Rule.Template
import TypeLint.Rule.Visit
import TypeLint.Source.Layout
import TypeLint.Source.Lexeme
import TypeLint.Source.Parse
import TypeLint.Source.Pending
import TypeLint.Source.Program
import TypeLint.Source.State
import TypeLint.Source.Step
import TypeLint.Source.Token
import TypeLint.Text.Alphanumeric
import TypeLint.Text.Basic
import TypeLint.Text.Blank
import TypeLint.Text.Case
import TypeLint.Text.Digit
import TypeLint.Text.Identifier
import TypeLint.Text.Integer
import TypeLint.Text.Name
import TypeLint.Text.NameTable
import TypeLint.Text.Printable
import TypeLint.Text.Quoted
import TypeLint.Text.Ranges
import TypeLint.Text.Utf8
import TypeLint.Tree.Build
import TypeLint.Tree.Handler
import TypeLint.Tree.Label
import TypeLint.Tree.Node
import TypeLint.Tree.Walk
import TypeLint.Proofs.Source.Grammar
import TypeLint.Proofs.Source.Acceptance
import TypeLint.Proofs.Command.Crash
import TypeLint.Proofs.Lint.Members
import TypeLint.Proofs.Source.Spots
import TypeLint.Proofs.Tree.Trace
import TypeLint.Proofs.Lint.SourceTree
import TypeLint.Proofs.Source.Proper
import TypeLint.Proofs.Tree.Binding
import TypeLint.Proofs.Source.Words
import TypeLint.Proofs.Lint.TypeText
import TypeLint.Proofs.Lint.Precedence
import TypeLint.Proofs.Source.LineEnds
import TypeLint.Proofs.Source.Gaps
import TypeLint.Proofs.Lint.Layout
import TypeLint.Proofs.Json.ReadBack
import TypeLint.Proofs.Files.Collect
import TypeLint.Proofs.Command.Modes
import TypeLint.Proofs.Source.Terminators
import TypeLint.Proofs.Rule.Ban
import TypeLint.Proofs.Source.Conservation
import TypeLint.Proofs.Lint.Literals
import TypeLint.Proofs.Rule.Schema
import TypeLint.Proofs.Rule.Entries
import TypeLint.Proofs.Lint.SyntaxErrors
import TypeLint.Proofs.Lint.Merge
import TypeLint.Proofs.Lint.Document
import TypeLint.Proofs.Lint.Flags
import TypeLint.Proofs.Rule.Reports
import TypeLint.Proofs.Tree.Traversal
import TypeLint.Proofs.Lint.Visit
