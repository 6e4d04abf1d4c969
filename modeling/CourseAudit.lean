import CourseAudit.Calendar.Date
import CourseAudit.Calendar.Iso
import CourseAudit.Calendar.Timestamp
import CourseAudit.Calendar.Written
import CourseAudit.Catalog.Basic
import CourseAudit.Catalog.Coverage
import CourseAudit.Catalog.Reader
import CourseAudit.Catalog.Rule
import CourseAudit.Catalog.Standard
import CourseAudit.Comparison
import CourseAudit.Dynamic
import CourseAudit.Evaluation.Aggregate
import CourseAudit.Evaluation.Completeness
import CourseAudit.Evaluation.Display
import CourseAudit.Evaluation.Engine
import CourseAudit.Evaluation.Item
import CourseAudit.Evaluation.Reader
import CourseAudit.Fault
import CourseAudit.History
import CourseAudit.Json.Reader
import CourseAudit.Number.Binary64
import CourseAudit.Number.Numeral
import CourseAudit.Number.Shortest
import CourseAudit.Pattern.Basic
import CourseAudit.Pattern.Letter
import CourseAudit.Pattern.Matcher
import CourseAudit.Pattern.Reader
import CourseAudit.Payload.Day
import CourseAudit.Payload.Domain
import CourseAudit.Payload.Form
import CourseAudit.Payload.Forms
import CourseAudit.Payload.Issue
import CourseAudit.Payload.Requests
import CourseAudit.Payload.Scalar
import CourseAudit.Proofs.Decoding
import CourseAudit.Proofs.Fault
import CourseAudit.Proofs.Record
import CourseAudit.Proofs.Task
import CourseAudit.Record
import CourseAudit.Review.Context
import CourseAudit.Review.Page
import CourseAudit.Review.Result
import CourseAudit.Samples
import CourseAudit.Section.Basic
import CourseAudit.Service.Basic
import CourseAudit.Service.Config
import CourseAudit.Service.Correlation
import CourseAudit.Service.Metrics
import CourseAudit.Service.Rejection
import CourseAudit.Service.Request
import CourseAudit.Service.Route
import CourseAudit.Task.Basic
import CourseAudit.Text.Alphanumeric
import CourseAudit.Text.Blank
import CourseAudit.Text.Bytes
import CourseAudit.Text.Case
import CourseAudit.Text.Digit
import CourseAudit.Text.Encoding
import CourseAudit.Text.Half
import CourseAudit.Text.Name.Alias
import CourseAudit.Text.Name.Alphabets
import CourseAudit.Text.Name.Ancient
import CourseAudit.Text.Name.Basic
import CourseAudit.Text.Name.Pictures
import CourseAudit.Text.Name.Signs
import CourseAudit.Text.Name.Syllables
import CourseAudit.Text.Name.Symbols
import CourseAudit.Text.Printable
import CourseAudit.Text.Quoted
import CourseAudit.Text.Search
import CourseAudit.Text.Span
import CourseAudit.Value.Basic
import CourseAudit.Value.Coercion
import CourseAudit.Value.Equality
import CourseAudit.Value.Vocabulary
import CourseAudit.Value.Written
import CourseAudit.Vocabulary.Choice
import CourseAudit.Vocabulary.Display
import CourseAudit.Vocabulary.Operator
import CourseAudit.Vocabulary.Source
import CourseAudit.Vocabulary.Unknown
import CourseAudit.Proofs.Outcome
import CourseAudit.Proofs.Number
import CourseAudit.Proofs.Sameness
import CourseAudit.Proofs.Editor
import CourseAudit.Proofs.History
import CourseAudit.Proofs.Completeness
import CourseAudit.Proofs.Service
import CourseAudit.Proofs.Validation
import CourseAudit.Proofs.Agreement
import CourseAudit.Proofs.Order
import CourseAudit.Proofs.Comparison
import CourseAudit.Proofs.Operators
import CourseAudit.Proofs.Alike
import CourseAudit.Proofs.Tokens
import CourseAudit.Proofs.Rereading
import CourseAudit.Proofs.Encoding
import CourseAudit.Proofs.Steps
import CourseAudit.Proofs.Restoring
import CourseAudit.Proofs.Session
import CourseAudit.Proofs.Separation
import CourseAudit.Proofs.Counting
import CourseAudit.Proofs.Totality
import CourseAudit.Proofs.Events
import CourseAudit.Proofs.Handling
import CourseAudit.Proofs.Halves
import CourseAudit.Proofs.Shown
import CourseAudit.Proofs.Writing
import CourseAudit.Proofs.Acceptance
import CourseAudit.Proofs.Observation
import CourseAudit.Proofs.Accounting
import CourseAudit.Proofs.Quotient
import CourseAudit.Proofs.Paging
import CourseAudit.Proofs.Spelling
import CourseAudit.Proofs.Locality
import CourseAudit.Proofs.Coverage
import CourseAudit.Proofs.Precision
import CourseAudit.Proofs.Decimal
import CourseAudit.Proofs.Percent
import CourseAudit.Proofs.Questions
import CourseAudit.Proofs.Readers
import CourseAudit.Proofs.Filtering
import CourseAudit.Proofs.Reordering
import CourseAudit.Proofs.Arrangement
import CourseAudit.Proofs.Labels
import CourseAudit.Proofs.Leftovers
import CourseAudit.Proofs.Override
import CourseAudit.Proofs.Paraphrase
import CourseAudit.Proofs.Relabelling
import CourseAudit.Proofs.Shedding
import CourseAudit.Proofs.Unknown
import CourseAudit.Proofs.Symmetry
import CourseAudit.Proofs.Visibility
import CourseAudit.Proofs.Shares
import CourseAudit.Proofs.Integers
import CourseAudit.Proofs.IntegerConditions
import CourseAudit.Proofs.IsoDate
import CourseAudit.Proofs.Today
import CourseAudit.Proofs.Views
import CourseAudit.Proofs.LetterCase
import CourseAudit.Proofs.Displayed
import CourseAudit.Proofs.SlashedDate
import CourseAudit.Proofs.Magnitude
import CourseAudit.Proofs.Coercion
