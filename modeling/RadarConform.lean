import RadarConform.Command.Arguments
import RadarConform.Command.Check
import RadarConform.Command.Error
import RadarConform.Command.Program
import RadarConform.Command.Reading
import RadarConform.Command.Table
import RadarConform.Comparison.Matcher
import RadarConform.Comparison.Report
import RadarConform.Comparison.Walk
import RadarConform.Constraint.Basic
import RadarConform.Constraint.Error
import RadarConform.Constraint.Evaluation
import RadarConform.Constraint.Expression
import RadarConform.Constraint.Reader
import RadarConform.Constraint.SourceIdentifier
import RadarConform.Event
import RadarConform.Exchange.Reading
import RadarConform.Exchange.Writing
import RadarConform.FilePath
import RadarConform.FileStore
import RadarConform.Json.Basic
import RadarConform.Json.Reader
import RadarConform.Json.Token
import RadarConform.Json.Writer
import RadarConform.Layout
import RadarConform.Location
import RadarConform.Main
import RadarConform.Number.Basic
import RadarConform.Number.Decimal
import RadarConform.Number.Rounding
import RadarConform.Pattern.Automaton
import RadarConform.Pattern.Basic
import RadarConform.Pattern.Bracket
import RadarConform.Pattern.ByteAutomaton
import RadarConform.Pattern.ByteSequence
import RadarConform.Pattern.CharSet
import RadarConform.Pattern.Escape
import RadarConform.Pattern.LiteralTree
import RadarConform.Pattern.Meter
import RadarConform.Pattern.Property
import RadarConform.Pattern.Reader
import RadarConform.Pattern.Search
import RadarConform.Pattern.Shape
import RadarConform.Rule
import RadarConform.Settings
import RadarConform.Snapshot.Error
import RadarConform.Snapshot.Reader
import RadarConform.Table.Error
import RadarConform.Table.Locator
import RadarConform.Table.Name
import RadarConform.Table.Reader
import RadarConform.Table.Record
import RadarConform.Text.Blank
import RadarConform.Text.Pieces
import RadarConform.Text.Quoted
import RadarConform.Text.Raw
import RadarConform.Unicode.Age
import RadarConform.Unicode.Alphanumeric
import RadarConform.Unicode.CaseFolding
import RadarConform.Unicode.GeneralCategory
import RadarConform.Unicode.Printable
import RadarConform.Unicode.Property
import RadarConform.Unicode.RangeTable
import RadarConform.Unicode.Script
import RadarConform.Unicode.ScriptExtensions
import RadarConform.Unicode.Segmentation
import RadarConform.Unicode.WordCharacter
import RadarConform.Value
import RadarConform.Version
import RadarConform.Yaml.Basic
import RadarConform.Yaml.Conversion
import RadarConform.Yaml.Cursor
import RadarConform.Yaml.Document
import RadarConform.Yaml.Node
import RadarConform.Yaml.Scalar.Block
import RadarConform.Yaml.Scalar.Gap
import RadarConform.Yaml.Scalar.Plain
import RadarConform.Yaml.Scalar.Quoted
import RadarConform.Yaml.Shown
import RadarConform.Yaml.Tag
import RadarConform.Yaml.Token
import RadarConform.Yaml.TokenStream
import RadarConform.Proofs.Comparison.NaiveWalk
import RadarConform.Proofs.Number.Numeral
import RadarConform.Proofs.Text.Cut
import RadarConform.Proofs.Constraint.Grammar
import RadarConform.Proofs.Constraint.Acceptance
import RadarConform.Proofs.Number.Rank
import RadarConform.Proofs.Number.RoundTrip
import RadarConform.Proofs.Constraint.Canonical
import RadarConform.Proofs.Pattern.Scanning
import RadarConform.Proofs.Pattern.Search
import RadarConform.Proofs.Pattern.Escape
import RadarConform.Proofs.Pattern.Bracket
import RadarConform.Proofs.Pattern.Step
import RadarConform.Proofs.Pattern.Run
import RadarConform.Proofs.Pattern.Order
import RadarConform.Proofs.Pattern.Anchoring
import RadarConform.Proofs.Comparison.Matching
import RadarConform.Proofs.WholeText
import RadarConform.Proofs.Comparison.Policy
import RadarConform.Proofs.Constraint.Progress
import RadarConform.Proofs.Comparison.KindChecked
import RadarConform.Proofs.Location
import RadarConform.Proofs.Snapshot.Building
import RadarConform.Proofs.Snapshot.Document
import RadarConform.Proofs.Snapshot.GroupRules
import RadarConform.Proofs.Comparison.Composition
import RadarConform.Proofs.Text.Raw
import RadarConform.Proofs.FilePath
import RadarConform.Proofs.Table.Naming
import RadarConform.Proofs.Table.Loading
import RadarConform.Proofs.Table.Resolution
import RadarConform.Proofs.FileStore
import RadarConform.Proofs.Command.Output
import RadarConform.Proofs.Command.SharedTables
import RadarConform.Proofs.Command.Batch
import RadarConform.Proofs.Table.Record
import RadarConform.Proofs.Table.Written
import RadarConform.Proofs.Table.FieldSpelling
import RadarConform.Proofs.Table.Lines
import RadarConform.Proofs.Table.LineByLine
import RadarConform.Proofs.Table.Columns
import RadarConform.Proofs.Comparison.Undescribed
import RadarConform.Proofs.Snapshot.EntryOrder
import RadarConform.Proofs.Yaml.Conversion
import RadarConform.Proofs.Comparison.Typed
import RadarConform.Proofs.Constraint.FirstClause
import RadarConform.Proofs.Comparison.Revision
import RadarConform.Proofs.Number.Magnitude
import RadarConform.Proofs.Json.Range
import RadarConform.Proofs.Yaml.Range
import RadarConform.Proofs.Comparison.FiniteSnapshot
import RadarConform.Proofs.Json.Literal
import RadarConform.Proofs.Json.Numeral
import RadarConform.Proofs.Json.RoundTrip
import RadarConform.Proofs.Snapshot.Numbers
import RadarConform.Proofs.Exchange.RoundTrip
import RadarConform.Proofs.Constraint.Evaluation
import RadarConform.Proofs.Constraint.Explanation
import RadarConform.Proofs.Constraint.Chain
import RadarConform.Proofs.Number.Order
import RadarConform.Proofs.Constraint.Complement
import RadarConform.Proofs.Constraint.Extremes
import RadarConform.Proofs.Location.Spelling
import RadarConform.Proofs.Location.AttributePath
import RadarConform.Proofs.Location.TextForm
import RadarConform.Proofs.Constraint.SourceIdentifier
import RadarConform.Proofs.Table.Containment
import RadarConform.Proofs.Version
import RadarConform.Proofs.Command.TextOutput
import RadarConform.Proofs.Constraint.Mean
import RadarConform.Proofs.Pattern.Literal
import RadarConform.Proofs.Pattern.LiteralSize
import RadarConform.Proofs.Comparison.LiteralParts
