import Criteria.Archive.Json
import Criteria.Calendar.Date
import Criteria.Calendar.Moment
import Criteria.Calendar.Pattern
import Criteria.Calendar.Printer
import Criteria.Calendar.Reader
import Criteria.Calendar.Week
import Criteria.Condition.Bag
import Criteria.Condition.Entry
import Criteria.Condition.Group
import Criteria.Exchange.Form
import Criteria.Exchange.Json
import Criteria.Exchange.Reader
import Criteria.Exchange.Writer
import Criteria.ExportError
import Criteria.Field
import Criteria.Field.Conversion
import Criteria.Field.Expectation
import Criteria.Field.Numeral
import Criteria.Field.Transformer
import Criteria.Field.ValueOrder
import Criteria.Intake
import Criteria.Json.Basic
import Criteria.Json.Decode
import Criteria.Json.Number
import Criteria.Json.Parser
import Criteria.Json.Printer
import Criteria.Keyed
import Criteria.Limits
import Criteria.Limits.Json
import Criteria.Number.Binary64
import Criteria.Number.Decimal
import Criteria.Number.Rounding
import Criteria.Problem
import Criteria.Proofs.Acceptance
import Criteria.Proofs.Birthday
import Criteria.Proofs.Calendar.TextOrder
import Criteria.Proofs.Exchange.Decoding
import Criteria.Proofs.Exchange.Ending
import Criteria.Proofs.Exchange.Overflow
import Criteria.Proofs.Exchange.RoundTrip
import Criteria.Proofs.Exchange.Text
import Criteria.Proofs.Exchange.Unrestricted
import Criteria.Proofs.Exchange.Written
import Criteria.Proofs.Exporting
import Criteria.Proofs.Extent
import Criteria.Proofs.Faults
import Criteria.Proofs.Intake
import Criteria.Proofs.Json.Reading
import Criteria.Proofs.Keyed
import Criteria.Proofs.Meaning
import Criteria.Proofs.Number.Collisions
import Criteria.Proofs.Number.Grouping
import Criteria.Proofs.Number.IntegerText
import Criteria.Proofs.Number.Nearest
import Criteria.Proofs.Offer
import Criteria.Proofs.Outcome
import Criteria.Proofs.Overflow
import Criteria.Proofs.Query.Carrying
import Criteria.Proofs.Query.Comparison
import Criteria.Proofs.Query.Complaints
import Criteria.Proofs.Query.Entry
import Criteria.Proofs.Query.Joining
import Criteria.Proofs.Query.Merging
import Criteria.Proofs.Query.Names
import Criteria.Proofs.Query.Overflow
import Criteria.Proofs.Query.Places
import Criteria.Proofs.Query.RoundTrip
import Criteria.Proofs.Query.Scalar
import Criteria.Proofs.Query.Scan
import Criteria.Proofs.Query.Seam
import Criteria.Proofs.Query.Statement
import Criteria.Proofs.Query.Tracking
import Criteria.Proofs.Query.Unrestricted
import Criteria.Proofs.Query.Written
import Criteria.Proofs.Rearranged
import Criteria.Proofs.Refine.Chain
import Criteria.Proofs.Refine.Containment
import Criteria.Proofs.Refine.Distinct
import Criteria.Proofs.Refine.Duplicates
import Criteria.Proofs.Refine.Equality
import Criteria.Proofs.Refine.Folding
import Criteria.Proofs.Refine.Likeness
import Criteria.Proofs.Refine.NormalForm
import Criteria.Proofs.Refine.Partition
import Criteria.Proofs.Refine.Reordering
import Criteria.Proofs.Refine.Runs
import Criteria.Proofs.Refine.Scope
import Criteria.Proofs.Refine.Settled
import Criteria.Proofs.Refine.Thinning
import Criteria.Proofs.Refine.Validity
import Criteria.Proofs.Row
import Criteria.Proofs.Shrinking
import Criteria.Proofs.Sql.Blindness
import Criteria.Proofs.Sql.BoundDates
import Criteria.Proofs.Sql.Denotation
import Criteria.Proofs.Sql.Failures
import Criteria.Proofs.Sql.History
import Criteria.Proofs.Sql.Identifiers
import Criteria.Proofs.Sql.Layout
import Criteria.Proofs.Sql.Lexing
import Criteria.Proofs.Sql.Like
import Criteria.Proofs.Sql.Making
import Criteria.Proofs.Sql.Marks
import Criteria.Proofs.Sql.Parsing
import Criteria.Proofs.Sql.Patterns
import Criteria.Proofs.Sql.Reading
import Criteria.Proofs.Sql.Spelling
import Criteria.Proofs.Sql.Success
import Criteria.Proofs.Sql.Tests
import Criteria.Proofs.Sql.Variants
import Criteria.Proofs.Successor
import Criteria.Proofs.Validation
import Criteria.Proofs.ValueOrder
import Criteria.Proofs.Views
import Criteria.Query.Grammar
import Criteria.Query.Reader
import Criteria.Query.Rule
import Criteria.Query.Scalar
import Criteria.Query.Scan
import Criteria.Query.Tree
import Criteria.Query.Writer
import Criteria.Refine.Bags
import Criteria.Refine.Chain
import Criteria.Refine.Containment
import Criteria.Refine.Distinct
import Criteria.Refine.Folding
import Criteria.Regex.Bracket
import Criteria.Regex.Escape
import Criteria.Regex.Form
import Criteria.Regex.Machine
import Criteria.Regex.Memo
import Criteria.Regex.Tally
import Criteria.Regex.WellFormed
import Criteria.Schema
import Criteria.Sql.Binding
import Criteria.Sql.Clause
import Criteria.Sql.Converter
import Criteria.Sql.Draft
import Criteria.Sql.Error
import Criteria.Sql.Platform
import Criteria.Sql.Session
import Criteria.Text.Blank
import Criteria.Text.Hidden
import Criteria.Text.Quoted
import Criteria.Unicode.Age
import Criteria.Unicode.Binary
import Criteria.Unicode.Boundary
import Criteria.Unicode.CaseFold
import Criteria.Unicode.Category
import Criteria.Unicode.CodeSet
import Criteria.Unicode.Derived
import Criteria.Unicode.Letter
import Criteria.Unicode.Property
import Criteria.Unicode.Script
import Criteria.Unicode.Utf8
import Criteria.Validation
import Criteria.Value
