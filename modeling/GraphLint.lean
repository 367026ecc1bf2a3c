import GraphLint.Command.Answer
import GraphLint.Command.Check
import GraphLint.Command.Colours
import GraphLint.Command.Grammar
import GraphLint.Command.Help
import GraphLint.Command.Launch
import GraphLint.Command.Program
import GraphLint.Command.Styled
import GraphLint.Completion
import GraphLint.Config
import GraphLint.ConfigFile
import GraphLint.Decimal.Nearest
import GraphLint.Decimal.Shortest
import GraphLint.Diagnostic
import GraphLint.Expression.Check
import GraphLint.Expression.Marker
import GraphLint.Expression.Quote
import GraphLint.Expression.Scanner
import GraphLint.Files.Ignore
import GraphLint.Files.IgnoreRule
import GraphLint.Files.Path
import GraphLint.Files.Pattern
import GraphLint.Files.Tree
import GraphLint.Files.Walk
import GraphLint.Json
import GraphLint.Json.Read
import GraphLint.Main
import GraphLint.Position
import GraphLint.Project
import GraphLint.Proofs.Expression.Agreement
import GraphLint.Proofs.Expression.Locator
import GraphLint.Proofs.Expression.Pairs
import GraphLint.Proofs.Expression.Segments
import GraphLint.Proofs.Position
import GraphLint.Proofs.Schema.Findings
import GraphLint.Proofs.Server.History
import GraphLint.Proofs.Server.LifeCycle
import GraphLint.Proofs.Server.Registry
import GraphLint.Proofs.Text.Lines
import GraphLint.Proofs.Validation.Filter
import GraphLint.Proofs.Validation.Pipeline
import GraphLint.Report
import GraphLint.Schema
import GraphLint.Section
import GraphLint.Server.Documents
import GraphLint.Server.Frame
import GraphLint.Server.Method
import GraphLint.Server.Session
import GraphLint.Server.Shape
import GraphLint.Server.Wire
import GraphLint.Text.Blank
import GraphLint.Text.Digit
import GraphLint.Text.Hidden
import GraphLint.Text.Lines
import GraphLint.Text.Quoted
import GraphLint.Text.Split
import GraphLint.Text.Utf8
import GraphLint.Text.Word
import GraphLint.Toml.Document
import GraphLint.Toml.Scalar
import GraphLint.Toml.Value
import GraphLint.Uri.Host
import GraphLint.Uri.Path
import GraphLint.Uri.Percent
import GraphLint.Uri.Punycode
import GraphLint.Uri.Read
import GraphLint.Validation
import GraphLint.Yaml.Build
import GraphLint.Yaml.Document
import GraphLint.Yaml.Event
import GraphLint.Yaml.Fault
import GraphLint.Yaml.Lexer
import GraphLint.Yaml.Mark
import GraphLint.Yaml.Resolve
import GraphLint.Yaml.Scalar.Block
import GraphLint.Yaml.Scalar.Gap
import GraphLint.Yaml.Scalar.Plain
import GraphLint.Yaml.Scalar.Quoted
import GraphLint.Yaml.Tag
import GraphLint.Yaml.Token
import GraphLint.Yaml.Value
import GraphLint.Yaml.Verdict
import GraphLint.Proofs.Files.Order
import GraphLint.Proofs.Server.Publication
import GraphLint.Proofs.Validation.Distinct
import GraphLint.Proofs.Project.Order
import GraphLint.Proofs.Project.Result
import GraphLint.Proofs.Yaml.Quoted
import GraphLint.Proofs.Yaml.FlatTokens
import GraphLint.Proofs.Yaml.FlatDocument
import GraphLint.Proofs.Yaml.FlatMapping
import GraphLint.Proofs.Expression.Context
import GraphLint.Proofs.Yaml.Neutralised
import GraphLint.Proofs.Yaml.Lexer
import GraphLint.Proofs.Section.Cursor
import GraphLint.Proofs.Command.Report
import GraphLint.Proofs.Project.Failure
import GraphLint.Proofs.Command.Check
import GraphLint.Proofs.Files.Path
import GraphLint.Proofs.Files.Walk
import GraphLint.Proofs.Project.Exclude
import GraphLint.Proofs.Text.Pattern
import GraphLint.Proofs.Text.Utf8
import GraphLint.Proofs.Uri.Percent
import GraphLint.Proofs.Uri.File
import GraphLint.Proofs.Server.Workspace
import GraphLint.Proofs.Server.Agreement
import GraphLint.Proofs.Expression.MarkerFree
import GraphLint.Proofs.Expression.Exact
import GraphLint.Proofs.Expression.Literals
import GraphLint.Proofs.Expression.Brackets
import GraphLint.Proofs.Text.Search
import GraphLint.Proofs.Text.LineEnds
import GraphLint.Proofs.Validation.LineEnds
import GraphLint.Proofs.Expression.Layout
import GraphLint.Proofs.Section.Meaning
import GraphLint.Proofs.Section.Before
import GraphLint.Proofs.Validation.Displaced
import GraphLint.Proofs.Yaml.NamedLine
import GraphLint.Proofs.Schema.Block
import GraphLint.Proofs.Schema.BlockPattern
import GraphLint.Proofs.Schema.HeaderLine
import GraphLint.Proofs.Server.Completion
import GraphLint.Proofs.Server.Batch
import GraphLint.Proofs.Schema.Value
import GraphLint.Proofs.Schema.Reported
import GraphLint.Proofs.Project.Outcome
import GraphLint.Proofs.Text.Trim
import GraphLint.Proofs.Expression.Checks
import GraphLint.Proofs.Expression.Margins
import GraphLint.Proofs.Expression.Hidden
import GraphLint.Proofs.Expression.Composition
import GraphLint.Proofs.Expression.Bodies
import GraphLint.Proofs.Validation.LineLocal
import GraphLint.Proofs.Command.FromOne
import GraphLint.Proofs.Text.Units
import GraphLint.Proofs.Server.Columns
import GraphLint.Proofs.Files.Below
import GraphLint.Proofs.Command.FileCount
import GraphLint.Proofs.Expression.Scanner
import GraphLint.Proofs.Expression.Decomposition
import GraphLint.Proofs.Config.Overlay
import GraphLint.Proofs.Config.Fallback
