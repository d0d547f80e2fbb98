import SoftFail.Bound
import SoftFail.Check.Basic
import SoftFail.Check.Complaint
import SoftFail.Check.Delivery
import SoftFail.Check.Expectation
import SoftFail.Check.Fallback
import SoftFail.Check.LinkedData
import SoftFail.Check.Loading
import SoftFail.Check.Outcome
import SoftFail.Check.Protection
import SoftFail.Check.Record
import SoftFail.Check.Rendering
import SoftFail.CommandLine.Arguments
import SoftFail.CommandLine.Run
import SoftFail.Config.Basic
import SoftFail.Config.File
import SoftFail.Config.Overrides
import SoftFail.Config.Record
import SoftFail.Config.Store
import SoftFail.Decimal.Binary
import SoftFail.Decimal.Natural
import SoftFail.Decimal.Notation
import SoftFail.Decimal.Reading
import SoftFail.Decimal.Shortest
import SoftFail.Decode.Fault
import SoftFail.Decode.Reader
import SoftFail.Decode.Skip
import SoftFail.Decode.Token
import SoftFail.Detector
import SoftFail.FileStore
import SoftFail.Headers
import SoftFail.Json.Number
import SoftFail.Json.Printing
import SoftFail.Json.Quoted
import SoftFail.Json.Reading
import SoftFail.Json.Tokens
import SoftFail.Main
import SoftFail.Markup.Content
import SoftFail.Markup.Element
import SoftFail.Pattern
import SoftFail.Proofs.Check.Conditions
import SoftFail.Proofs.Check.ExpectedPatterns
import SoftFail.Proofs.Check.Expression
import SoftFail.Proofs.Check.ItemCount
import SoftFail.Proofs.Check.Keywords
import SoftFail.Proofs.Check.LazyLoading
import SoftFail.Proofs.Check.LetterCase
import SoftFail.Proofs.Check.LinkedData
import SoftFail.Proofs.Check.Noscript
import SoftFail.Proofs.Check.Pagination
import SoftFail.Proofs.Check.Payloads
import SoftFail.Proofs.Check.Redirects
import SoftFail.Proofs.Check.Surroundings
import SoftFail.Proofs.Check.Uniformity
import SoftFail.Proofs.Check.VisibleText
import SoftFail.Proofs.CommandLine.Judging
import SoftFail.Proofs.Config.Effective
import SoftFail.Proofs.Config.Fits
import SoftFail.Proofs.Config.Overrides
import SoftFail.Proofs.Config.Reload
import SoftFail.Proofs.Config.Store
import SoftFail.Proofs.Config.Writing
import SoftFail.Proofs.Decimal.Comparison
import SoftFail.Proofs.Decimal.Digits
import SoftFail.Proofs.Decimal.Pointed
import SoftFail.Proofs.Decode.Kinds
import SoftFail.Proofs.Decode.Range
import SoftFail.Proofs.Decode.Taking
import SoftFail.Proofs.Detector.FirstFailure
import SoftFail.Proofs.Detector.LetterCase
import SoftFail.Proofs.Detector.Strictness
import SoftFail.Proofs.Detector.TurnedOff
import SoftFail.Proofs.Detector.Unreadable
import SoftFail.Proofs.FileStore
import SoftFail.Proofs.Headers.History
import SoftFail.Proofs.Headers.Lookup
import SoftFail.Proofs.Headers.Order
import SoftFail.Proofs.Headers.Recorded
import SoftFail.Proofs.Json.Layout
import SoftFail.Proofs.Json.Number
import SoftFail.Proofs.Json.Quoted
import SoftFail.Proofs.Json.Tokens
import SoftFail.Proofs.Markup.Element
import SoftFail.Proofs.Markup.Enclosed
import SoftFail.Proofs.Markup.Expression
import SoftFail.Proofs.Markup.LetterCase
import SoftFail.Proofs.Markup.Parts
import SoftFail.Proofs.Markup.Tag
import SoftFail.Proofs.Markup.Written
import SoftFail.Proofs.Pattern
import SoftFail.Proofs.Regex.Bracket
import SoftFail.Proofs.Regex.CharSet
import SoftFail.Proofs.Regex.Code
import SoftFail.Proofs.Regex.Division
import SoftFail.Proofs.Regex.Escape
import SoftFail.Proofs.Regex.Meaning
import SoftFail.Proofs.Regex.Parser
import SoftFail.Proofs.Regex.Preference
import SoftFail.Proofs.Regex.Reading
import SoftFail.Proofs.Regex.Run
import SoftFail.Proofs.Regex.Search
import SoftFail.Proofs.Regex.Source
import SoftFail.Proofs.Regex.Surrounded
import SoftFail.Proofs.Snapshot.Replay
import SoftFail.Proofs.Text.Blank
import SoftFail.Proofs.Text.Boundary
import SoftFail.Proofs.Text.Expression
import SoftFail.Proofs.Text.LetterCase
import SoftFail.Proofs.Text.Occurrence
import SoftFail.Proofs.Text.Repeated
import SoftFail.Proofs.Text.Scan
import SoftFail.Proofs.Text.Substring
import SoftFail.Proofs.Text.Template
import SoftFail.Proofs.Text.Utf8
import SoftFail.Proofs.Text.Widened
import SoftFail.Proofs.Text.Window
import SoftFail.Proofs.Text.Word
import SoftFail.Proofs.Toml.Document
import SoftFail.Proofs.Toml.Line
import SoftFail.Proofs.Toml.Pieces
import SoftFail.Proofs.Toml.Quoted
import SoftFail.Proofs.Toml.Range
import SoftFail.Proofs.Toml.Scalar
import SoftFail.Proofs.Toml.Scan
import SoftFail.Proofs.Toml.Value
import SoftFail.Proofs.Toml.Writable
import SoftFail.Proofs.Unicode.CaseFold
import SoftFail.Proofs.Verdict.Replay
import SoftFail.Proofs.Verdict.Sound
import SoftFail.Regex.Basic
import SoftFail.Regex.Bracket
import SoftFail.Regex.CharSet
import SoftFail.Regex.Escape
import SoftFail.Regex.Expr
import SoftFail.Regex.Meaning
import SoftFail.Regex.Parser
import SoftFail.Regex.Program
import SoftFail.Regex.Property
import SoftFail.Regex.Search
import SoftFail.Regex.Size
import SoftFail.Regex.Syntax
import SoftFail.Snapshot.Basic
import SoftFail.Snapshot.Record
import SoftFail.Text.Blank
import SoftFail.Text.Find
import SoftFail.Text.Hex
import SoftFail.Text.Letter
import SoftFail.Text.Lower
import SoftFail.Text.Quoted
import SoftFail.Text.Scan
import SoftFail.Text.Template
import SoftFail.Text.Utf8
import SoftFail.Text.Window
import SoftFail.Toml.Printing
import SoftFail.Toml.Quoted
import SoftFail.Toml.Reading
import SoftFail.Toml.Scalar
import SoftFail.Toml.Scan
import SoftFail.Toml.Table
import SoftFail.Unicode.Age
import SoftFail.Unicode.Break
import SoftFail.Unicode.CaseFold
import SoftFail.Unicode.Category
import SoftFail.Unicode.Digit
import SoftFail.Unicode.Property
import SoftFail.Unicode.RangeSet
import SoftFail.Unicode.Script
import SoftFail.Unicode.ScriptExtension
import SoftFail.Unicode.Visible
import SoftFail.Unicode.Word
import SoftFail.Value
import SoftFail.Verdict.Basic
import SoftFail.Verdict.Record
