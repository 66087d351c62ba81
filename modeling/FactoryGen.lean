import FactoryGen.Command.Argument
import FactoryGen.Command.Execution
import FactoryGen.Command.Help
import FactoryGen.Command.Invocation
import FactoryGen.Command.Options
import FactoryGen.Diagnostic
import FactoryGen.Document.Basic
import FactoryGen.Document.Decoding
import FactoryGen.Factory
import FactoryGen.FileTree.Basic
import FactoryGen.FileTree.Change
import FactoryGen.FileTree.Delivery
import FactoryGen.Generator
import FactoryGen.Json.Basic
import FactoryGen.Json.Decoding
import FactoryGen.Json.Printer
import FactoryGen.Json.Reader
import FactoryGen.Kotlin.Name
import FactoryGen.Kotlin.Package
import FactoryGen.Kotlin.TypeReference
import FactoryGen.Main
import FactoryGen.Manifest
import FactoryGen.Number.Binary
import FactoryGen.Number.Decimal
import FactoryGen.Number.Numeral
import FactoryGen.Output.Format
import FactoryGen.Output.Pretty
import FactoryGen.Output.Style
import FactoryGen.Path
import FactoryGen.Problem
import FactoryGen.Report
import FactoryGen.Run.Check
import FactoryGen.Run.Generation
import FactoryGen.Run.Loading
import FactoryGen.Settings
import FactoryGen.Shape
import FactoryGen.SourceFile
import FactoryGen.Symbol
import FactoryGen.Template.Basic
import FactoryGen.Template.BuiltIn
import FactoryGen.Template.Layout
import FactoryGen.Template.Library
import FactoryGen.Template.Reader
import FactoryGen.Template.Reference
import FactoryGen.Template.Rendering
import FactoryGen.Template.Tag
import FactoryGen.Text.Pieces
import FactoryGen.Text.Quoted
import FactoryGen.Toml.Decoding
import FactoryGen.Toml.Moment
import FactoryGen.Toml.Reader
import FactoryGen.Toml.Scalar
import FactoryGen.Toml.Table
import FactoryGen.Toml.Text
import FactoryGen.Unicode.Blank
import FactoryGen.Unicode.DecimalDigit
import FactoryGen.Unicode.Invisible
import FactoryGen.Unicode.Letter
import FactoryGen.Unicode.Ranges
import FactoryGen.Proofs.Batch
import FactoryGen.Proofs.Rendering
import FactoryGen.Proofs.Source
import FactoryGen.Proofs.Nesting
import FactoryGen.Proofs.Header
import FactoryGen.Proofs.Scope
import FactoryGen.Proofs.Placement
import FactoryGen.Proofs.Delivery
import FactoryGen.Proofs.Loading
import FactoryGen.Proofs.Rehearsal
import FactoryGen.Proofs.ExitCodes
import FactoryGen.Proofs.Recovery
import FactoryGen.Proofs.Compact
import FactoryGen.Proofs.Portable
import FactoryGen.Proofs.Presentation
import FactoryGen.Proofs.Records
import FactoryGen.Proofs.Regeneration
import FactoryGen.Proofs.Respelling
import FactoryGen.Proofs.RoundTrip
import FactoryGen.Proofs.Gate
import FactoryGen.Proofs.TypeRules
import FactoryGen.Proofs.TypeForms
import FactoryGen.Proofs.Backticks
import FactoryGen.Proofs.Counting
import FactoryGen.Proofs.LineBreaks
import FactoryGen.Proofs.Interruption
import FactoryGen.Proofs.Descent
import FactoryGen.Proofs.FreshDirectory
import FactoryGen.Proofs.Numerals
import FactoryGen.Proofs.Legibility
import FactoryGen.Proofs.Escaping
import FactoryGen.Proofs.Walks
