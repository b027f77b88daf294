import Conform.Calendar.Date
import Conform.Calendar.DateTime
import Conform.Calendar.Duration
import Conform.Coerce
import Conform.Command.Check
import Conform.Command.Documents
import Conform.Command.Line
import Conform.Command.Options
import Conform.Command.Replay
import Conform.Command.Trouble
import Conform.Decimal.Layout
import Conform.Decimal.Reading
import Conform.Decimal.Scaled
import Conform.Decimal.Shortest
import Conform.Decimal.Whole
import Conform.Definition.Decode
import Conform.Definition.Error
import Conform.Definition.Lower
import Conform.Definition.Source
import Conform.Definition.Syntax
import Conform.Entries
import Conform.Failure
import Conform.Files.Basic
import Conform.Files.Disk
import Conform.Files.Glob
import Conform.Files.Path
import Conform.Filter.Access
import Conform.Filter.Arithmetic
import Conform.Filter.Builtin
import Conform.Filter.Datum
import Conform.Filter.Engine
import Conform.Filter.Eval
import Conform.Filter.Names
import Conform.Filter.Outputs
import Conform.Filter.Parser
import Conform.Filter.Reading
import Conform.Filter.Run
import Conform.Filter.Standard
import Conform.Filter.Term
import Conform.Filter.Token
import Conform.Fixture.Basic
import Conform.Fixture.Source
import Conform.Json.Basic
import Conform.Json.Pointer
import Conform.Json.Printer
import Conform.Kind
import Conform.Main
import Conform.Pattern.Basic
import Conform.Pattern.Engine
import Conform.Pattern.Parser
import Conform.Pattern.Piece
import Conform.Predicate
import Conform.Read.Document
import Conform.Read.Fault
import Conform.Read.Shape
import Conform.Read.Source
import Conform.Read.Token
import Conform.Registry
import Conform.Schema
import Conform.Scope.Basic
import Conform.Scope.Builder
import Conform.Scope.Cycle
import Conform.Text.Blank
import Conform.Text.Digit
import Conform.Text.Fold
import Conform.Text.Hex
import Conform.Text.Hidden
import Conform.Text.Letter
import Conform.Text.Numeric
import Conform.Text.Ranges
import Conform.Text.Search
import Conform.Text.Shown
import Conform.Text.Upper
import Conform.Text.Word
import Conform.Validate
import Conform.Value.Basic
import Conform.Value.Json
import Conform.Proofs.Outcome
import Conform.Proofs.Scope.Order
import Conform.Proofs.Entries
import Conform.Proofs.Schema
import Conform.Proofs.Scope.Built
import Conform.Proofs.Scope.Cycle
import Conform.Proofs.Scope.Accepted
import Conform.Proofs.Validate.Calls
import Conform.Proofs.Validate.Enough
import Conform.Proofs.Coerce
import Conform.Proofs.Failure
import Conform.Proofs.Validate.Parts
import Conform.Proofs.Validate.First
import Conform.Proofs.Validate.Soundness
import Conform.Proofs.Validate.Origin
import Conform.Proofs.Validate.Location
import Conform.Proofs.Validate.Lookup
import Conform.Proofs.Validate.Walker
import Conform.Proofs.Validate.Again
import Conform.Proofs.Validate.FixedPoint
import Conform.Proofs.Validate.Alike
import Conform.Proofs.Validate.Inline
import Conform.Proofs.Validate.Rebound
import Conform.Proofs.Validate.Rewrite
import Conform.Proofs.Registry
import Conform.Proofs.Isolation
import Conform.Proofs.Text.Digit
import Conform.Proofs.Calendar.Text
import Conform.Proofs.Decimal.Nearest
import Conform.Proofs.Decimal.Reading
import Conform.Proofs.Value.Json
import Conform.Proofs.Definition.Build
import Conform.Proofs.Definition.Canonical
import Conform.Proofs.Validate.Canonical
import Conform.Proofs.Validate.Relax
import Conform.Proofs.Value.Similar
import Conform.Proofs.Validate.Reorder
import Conform.Proofs.Validate.Record
import Conform.Proofs.Calendar.Instant
import Conform.Proofs.Definition.Whole
import Conform.Proofs.Calendar.Day
import Conform.Proofs.Duration.Captures
import Conform.Proofs.Duration.Grammar
import Conform.Proofs.Decimal.Rounding
import Conform.Proofs.Decimal.Numeral
import Conform.Proofs.Decimal.Shortest
import Conform.Proofs.Duration.Text
import Conform.Proofs.Duration.Range
import Conform.Proofs.Decimal.Whole
import Conform.Proofs.Json
import Conform.Proofs.Value.Lossless
import Conform.Proofs.Definition.Lowering
import Conform.Proofs.Validate.Unused
import Conform.Proofs.Definition.Reserved
import Conform.Proofs.Read.Shape
import Conform.Proofs.Definition.RoundTrip
import Conform.Proofs.Scope.Reported
import Conform.Proofs.Files.Looks
import Conform.Proofs.Fixture
import Conform.Proofs.Command.Loading
import Conform.Proofs.Files.Written
import Conform.Proofs.Json.OneLine
import Conform.Proofs.Command.Output
import Conform.Proofs.Value.Written
import Conform.Proofs.Path
