import EventSheet.Catalog.Basic
import EventSheet.Catalog.Builtin
import EventSheet.Catalog.Json
import EventSheet.Catalog.Loading
import EventSheet.Catalog.Operation
import EventSheet.Catalog.Platform
import EventSheet.Catalog.Provider
import EventSheet.CommandLine.Arguments
import EventSheet.CommandLine.FileTree
import EventSheet.CommandLine.Help
import EventSheet.CommandLine.Run
import EventSheet.Decimal.Binary64
import EventSheet.Diagnostic.Basic
import EventSheet.Diagnostic.Code
import EventSheet.Diagnostic.Problem
import EventSheet.Expr.Basic
import EventSheet.Expr.Dump
import EventSheet.Expr.Parser
import EventSheet.Expr.Reader
import EventSheet.Index
import EventSheet.Json.Basic
import EventSheet.Json.Lexer
import EventSheet.Json.Parser
import EventSheet.Json.Printer
import EventSheet.Main
import EventSheet.Manifest.Basic
import EventSheet.Manifest.Declarations
import EventSheet.Path
import EventSheet.Proofs.Catalog.Decoding
import EventSheet.Proofs.Catalog.Registration
import EventSheet.Proofs.Catalog.Runs
import EventSheet.Proofs.CommandLine.Lines
import EventSheet.Proofs.CommandLine.Listing
import EventSheet.Proofs.CommandLine.Setup
import EventSheet.Proofs.CommandLine.Views
import EventSheet.Proofs.Faultless
import EventSheet.Proofs.Json.Lexing
import EventSheet.Proofs.Json.Reading
import EventSheet.Proofs.Json.Writing
import EventSheet.Proofs.Lexing.Cutting
import EventSheet.Proofs.Lexing.Hull
import EventSheet.Proofs.Lexing.Literals
import EventSheet.Proofs.Lexing.Lossless
import EventSheet.Proofs.Lexing.Patterns
import EventSheet.Proofs.Lexing.Positions
import EventSheet.Proofs.Lexing.Spacing
import EventSheet.Proofs.Reading.Acceptance
import EventSheet.Proofs.Reading.Assembly
import EventSheet.Proofs.Reading.Counter
import EventSheet.Proofs.Reading.Course
import EventSheet.Proofs.Reading.Depth
import EventSheet.Proofs.Reading.Effects
import EventSheet.Proofs.Reading.Form
import EventSheet.Proofs.Reading.Height
import EventSheet.Proofs.Reading.Leftovers
import EventSheet.Proofs.Reading.LevelSkip
import EventSheet.Proofs.Reading.Likeness
import EventSheet.Proofs.Reading.Literals
import EventSheet.Proofs.Reading.Nested
import EventSheet.Proofs.Reading.Nesting
import EventSheet.Proofs.Reading.Operands
import EventSheet.Proofs.Reading.Placement
import EventSheet.Proofs.Reading.Positions
import EventSheet.Proofs.Reading.Progress
import EventSheet.Proofs.Reading.Redundancy
import EventSheet.Proofs.Reading.Resuming
import EventSheet.Proofs.Reading.Skipping
import EventSheet.Proofs.Reading.Slices
import EventSheet.Proofs.Reading.Soundness
import EventSheet.Proofs.Reading.Spelling
import EventSheet.Proofs.Reading.Strength
import EventSheet.Proofs.Reading.Tolerance
import EventSheet.Proofs.Reading.Trail
import EventSheet.Proofs.Report.Rendering
import EventSheet.Proofs.Report.Severities
import EventSheet.Proofs.Scoping
import EventSheet.Proofs.Syntax.Brackets
import EventSheet.Proofs.Syntax.Concrete
import EventSheet.Proofs.Syntax.Distinct
import EventSheet.Proofs.Syntax.Grammar
import EventSheet.Proofs.Syntax.Groups
import EventSheet.Proofs.Syntax.Layering
import EventSheet.Proofs.Syntax.Levels
import EventSheet.Proofs.Syntax.Nodes
import EventSheet.Proofs.Syntax.Outline
import EventSheet.Proofs.Syntax.Parts
import EventSheet.Proofs.Syntax.Shifting
import EventSheet.Proofs.Syntax.Shown
import EventSheet.Proofs.Syntax.Unambiguity
import EventSheet.Proofs.Text.Lines
import EventSheet.Proofs.Text.Quoting
import EventSheet.Proofs.Typing.Acceptance
import EventSheet.Proofs.Typing.Agreement
import EventSheet.Proofs.Typing.Arguments
import EventSheet.Proofs.Typing.Attribution
import EventSheet.Proofs.Typing.Calls
import EventSheet.Proofs.Typing.Contexts
import EventSheet.Proofs.Typing.Correctness
import EventSheet.Proofs.Typing.Fitting
import EventSheet.Proofs.Typing.Independence
import EventSheet.Proofs.Typing.Judgement
import EventSheet.Proofs.Typing.Layout
import EventSheet.Proofs.Typing.Likeness
import EventSheet.Proofs.Typing.Loosening
import EventSheet.Proofs.Typing.Lost
import EventSheet.Proofs.Typing.Pairing
import EventSheet.Proofs.Typing.Parentheses
import EventSheet.Proofs.Typing.Positions
import EventSheet.Proofs.Typing.Telling
import EventSheet.Proofs.Typing.Texts
import EventSheet.Proofs.Typing.Unknown
import EventSheet.Proofs.Typing.Visits
import EventSheet.Report.Basic
import EventSheet.Report.Json
import EventSheet.Scope
import EventSheet.Text.Alphabetic
import EventSheet.Text.Combining
import EventSheet.Text.Hexadecimal
import EventSheet.Text.Lines
import EventSheet.Text.Literal
import EventSheet.Text.Numeric
import EventSheet.Text.Printable
import EventSheet.Text.Quoted
import EventSheet.Text.Ranges
import EventSheet.Text.Span
import EventSheet.Token.Basic
import EventSheet.Token.Lexer
import EventSheet.Toml.Parser
import EventSheet.Toml.Scalar
import EventSheet.Toml.Table
import EventSheet.Typing.Argument
import EventSheet.Typing.Call
import EventSheet.Typing.Checker
import EventSheet.Typing.SemanticType
