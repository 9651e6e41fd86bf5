import RowTypings.Command.Arguments
import RowTypings.Command.Generate
import RowTypings.Command.Infer
import RowTypings.Command.Outcome
import RowTypings.Command.Program
import RowTypings.Csv.Records
import RowTypings.Decimal.Binary64
import RowTypings.Decimal.Layout
import RowTypings.Decimal.Shortest
import RowTypings.Diagnostic
import RowTypings.Fields
import RowTypings.Files.FileTree
import RowTypings.Files.Path
import RowTypings.Json.Fault
import RowTypings.Json.FromText
import RowTypings.Json.Printer
import RowTypings.Json.Reader
import RowTypings.Json.Value
import RowTypings.Main
import RowTypings.Naming.Identifier
import RowTypings.Naming.Words
import RowTypings.Proofs.Basic
import RowTypings.Proofs.Decimal.Rounding
import RowTypings.Proofs.Fields
import RowTypings.Proofs.Files.Growth
import RowTypings.Proofs.Files.Path
import RowTypings.Proofs.Files.Resolution
import RowTypings.Proofs.Json.Keyed
import RowTypings.Proofs.Json.NumberGrammar
import RowTypings.Proofs.Json.NumberText
import RowTypings.Proofs.Json.ReadBack
import RowTypings.Proofs.Json.ReadNumber
import RowTypings.Proofs.Json.ReadScalar
import RowTypings.Proofs.Json.ReadValues
import RowTypings.Proofs.Json.ScalarText
import RowTypings.Proofs.Naming.DeclaredNames
import RowTypings.Proofs.Naming.Identifier
import RowTypings.Proofs.Naming.Spellings
import RowTypings.Proofs.Naming.WordBoundaries
import RowTypings.Proofs.Naming.Words
import RowTypings.Proofs.Record.Coercion
import RowTypings.Proofs.Record.OwnRow
import RowTypings.Proofs.Run.Batch
import RowTypings.Proofs.Run.Calls
import RowTypings.Proofs.Run.Counters
import RowTypings.Proofs.Run.Declarations
import RowTypings.Proofs.Run.Layouts
import RowTypings.Proofs.Run.OriginComments
import RowTypings.Proofs.Run.OwnSources
import RowTypings.Proofs.Run.TextualCopy
import RowTypings.Proofs.Schema.Counts
import RowTypings.Proofs.Schema.Cut
import RowTypings.Proofs.Schema.Depth
import RowTypings.Proofs.Schema.Extension
import RowTypings.Proofs.Schema.Refinement
import RowTypings.Proofs.Schema.Regular
import RowTypings.Proofs.Schema.Repetition
import RowTypings.Proofs.Schema.Required
import RowTypings.Proofs.Schema.SerializedText
import RowTypings.Proofs.Schema.Uniform
import RowTypings.Proofs.Schema.WellFormed
import RowTypings.Proofs.Sink.Accounts
import RowTypings.Proofs.Sink.Directory
import RowTypings.Proofs.Sink.Emission
import RowTypings.Proofs.Sink.Requests
import RowTypings.Proofs.Source.HeaderColumns
import RowTypings.Proofs.Source.JsonSpellings
import RowTypings.Proofs.Text.CaseMapping
import RowTypings.Proofs.Text.Runs
import RowTypings.Proofs.Text.Trim
import RowTypings.Proofs.Time.Parts
import RowTypings.Proofs.Time.Spellings
import RowTypings.Proofs.Time.Stamp
import RowTypings.Proofs.TypeScript.Bundle
import RowTypings.Proofs.TypeScript.Conformance
import RowTypings.Proofs.TypeScript.DepthLimit
import RowTypings.Proofs.TypeScript.FieldsAlone
import RowTypings.Proofs.TypeScript.History
import RowTypings.Proofs.TypeScript.InterfaceText
import RowTypings.Proofs.TypeScript.KeyTable
import RowTypings.Proofs.TypeScript.LiteralText
import RowTypings.Proofs.TypeScript.MemberText
import RowTypings.Proofs.TypeScript.NestedKeys
import RowTypings.Proofs.TypeScript.NestedLiteral
import RowTypings.Proofs.TypeScript.QuotedText
import RowTypings.Proofs.TypeScript.RecordLiteral
import RowTypings.Proofs.TypeScript.SiblingKeys
import RowTypings.Proofs.TypeScript.StableKeys
import RowTypings.Proofs.TypeScript.StringLiteral
import RowTypings.Proofs.TypeScript.ExpressionReader
import RowTypings.Record.Cell
import RowTypings.Record.Coercion
import RowTypings.Run.Compilation
import RowTypings.Run.Report
import RowTypings.Run.Session
import RowTypings.Schema.Basic
import RowTypings.Schema.Codec
import RowTypings.Schema.Inference
import RowTypings.Settings.Basic
import RowTypings.Settings.Codec
import RowTypings.Settings.Toml
import RowTypings.Sink.Basic
import RowTypings.Sink.Directory
import RowTypings.Sink.Memory
import RowTypings.Source.Basic
import RowTypings.Text.Alphabetic
import RowTypings.Text.CaseMapping
import RowTypings.Text.Classes
import RowTypings.Text.CodeRanges
import RowTypings.Text.Echo
import RowTypings.Text.GraphemeExtend
import RowTypings.Text.LetterCase
import RowTypings.Text.Numeric
import RowTypings.Text.Trim
import RowTypings.Text.Unprintable
import RowTypings.Time.Instant
import RowTypings.Time.Stamp
import RowTypings.Toml.Document
import RowTypings.Toml.Plain
import RowTypings.Toml.Quoted
import RowTypings.Toml.Table
import RowTypings.TypeScript.Bundle
import RowTypings.TypeScript.Interface
import RowTypings.TypeScript.Literal
import RowTypings.TypeScript.Module
import RowTypings.TypeScript.PropertyKey
import RowTypings.TypeScript.Quoted
import RowTypings.TypeScript.RecordLiteral
import RowTypings.Yaml.Printer
import RowTypings.Yaml.Resolution
import RowTypings.Yaml.Scalar
