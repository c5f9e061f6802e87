import VersionCatalog.Breakdown
import VersionCatalog.CallStack
import VersionCatalog.Catalog.Aliases
import VersionCatalog.Catalog.Basic
import VersionCatalog.Catalog.OfDocument
import VersionCatalog.Check
import VersionCatalog.Check.File
import VersionCatalog.Check.Trace
import VersionCatalog.CommandLine.Command
import VersionCatalog.CommandLine.Options
import VersionCatalog.CommandLine.Run
import VersionCatalog.CommandLine.Similarity
import VersionCatalog.Console.Style
import VersionCatalog.Coordinate
import VersionCatalog.Document.Basic
import VersionCatalog.Document.Fault
import VersionCatalog.Document.Reader.Cursor
import VersionCatalog.Document.Reader.Key
import VersionCatalog.Document.Reader.Line
import VersionCatalog.Document.Reader.Quoted
import VersionCatalog.Document.Reader.Value
import VersionCatalog.Document.Value
import VersionCatalog.Envelope
import VersionCatalog.Failure
import VersionCatalog.Files.Path
import VersionCatalog.Files.System
import VersionCatalog.Files.Tree
import VersionCatalog.Finding
import VersionCatalog.Json.Basic
import VersionCatalog.Json.Reader
import VersionCatalog.Json.Writer
import VersionCatalog.Main
import VersionCatalog.Number.Binary64
import VersionCatalog.Number.Decimal
import VersionCatalog.Occurrence
import VersionCatalog.Record
import VersionCatalog.Report
import VersionCatalog.Rule.Advisories
import VersionCatalog.Rule.Basic
import VersionCatalog.Rule.Coordinates
import VersionCatalog.Rule.Keys
import VersionCatalog.Rule.References
import VersionCatalog.Rule.Sections
import VersionCatalog.Rule.Standard
import VersionCatalog.Settings.Basic
import VersionCatalog.Settings.Datum
import VersionCatalog.Settings.Environment
import VersionCatalog.Settings.File
import VersionCatalog.Settings.Moment
import VersionCatalog.Text.Alphanumeric
import VersionCatalog.Text.Assignment
import VersionCatalog.Text.Blank
import VersionCatalog.Text.CodeRange
import VersionCatalog.Text.Digit
import VersionCatalog.Text.Fields
import VersionCatalog.Text.Hexadecimal
import VersionCatalog.Text.LooseHexadecimal
import VersionCatalog.Text.Pattern
import VersionCatalog.Text.Printable
import VersionCatalog.Text.Quoted
import VersionCatalog.Text.UpperCase
import VersionCatalog.Text.Utf8
import VersionCatalog.Timestamp
import VersionCatalog.Version.Grammar
import VersionCatalog.Version.Release
import VersionCatalog.Yaml.Fault
import VersionCatalog.Yaml.Library
import VersionCatalog.Yaml.Moment
import VersionCatalog.Yaml.Node
import VersionCatalog.Yaml.Position
import VersionCatalog.Yaml.Reader
import VersionCatalog.Yaml.Scalar
import VersionCatalog.Yaml.Text
import VersionCatalog.Yaml.Token
import VersionCatalog.Proofs.Catalog.Contents
import VersionCatalog.Proofs.Catalog.Notations
import VersionCatalog.Proofs.Catalog.Sections
import VersionCatalog.Proofs.Check.DeclaredSections
import VersionCatalog.Proofs.Check.Encoding
import VersionCatalog.Proofs.Check.File
import VersionCatalog.Proofs.Check.Interruption
import VersionCatalog.Proofs.Check.LeadingMark
import VersionCatalog.Proofs.Check.Outcome
import VersionCatalog.Proofs.Check.PlainText
import VersionCatalog.Proofs.Check.SectionOrder
import VersionCatalog.Proofs.Check.Validity
import VersionCatalog.Proofs.CommandLine.Formats
import VersionCatalog.Proofs.CommandLine.Words
import VersionCatalog.Proofs.Coordinate
import VersionCatalog.Proofs.Document.Blocks
import VersionCatalog.Proofs.Document.Calls
import VersionCatalog.Proofs.Document.CopiedEscapes
import VersionCatalog.Proofs.Document.CopiedLines
import VersionCatalog.Proofs.Document.CopiedReaders
import VersionCatalog.Proofs.Document.CopiedValues
import VersionCatalog.Proofs.Document.Copy
import VersionCatalog.Proofs.Document.EmbeddedReaders
import VersionCatalog.Proofs.Document.EmbeddedValues
import VersionCatalog.Proofs.Document.Embedding
import VersionCatalog.Proofs.Document.EscapeFaults
import VersionCatalog.Proofs.Document.Escapes
import VersionCatalog.Proofs.Document.Exhaustion
import VersionCatalog.Proofs.Document.Join
import VersionCatalog.Proofs.Document.LineEndings
import VersionCatalog.Proofs.Document.Lines
import VersionCatalog.Proofs.Document.LongTexts
import VersionCatalog.Proofs.Document.OneLine
import VersionCatalog.Proofs.Document.Passage
import VersionCatalog.Proofs.Document.Plain
import VersionCatalog.Proofs.Document.Preamble
import VersionCatalog.Proofs.Document.Progress
import VersionCatalog.Proofs.Document.Readers
import VersionCatalog.Proofs.Document.RoundTrip
import VersionCatalog.Proofs.Document.SpelledEntries
import VersionCatalog.Proofs.Document.SpelledValues
import VersionCatalog.Proofs.Document.Spelling
import VersionCatalog.Proofs.Document.Structure
import VersionCatalog.Proofs.Document.Values
import VersionCatalog.Proofs.Document.Walk
import VersionCatalog.Proofs.Document.WalkedCalls
import VersionCatalog.Proofs.Document.WalkedReaders
import VersionCatalog.Proofs.Document.Written
import VersionCatalog.Proofs.Document.WrittenKeys
import VersionCatalog.Proofs.Document.WrittenValues
import VersionCatalog.Proofs.Envelope
import VersionCatalog.Proofs.Files.Places
import VersionCatalog.Proofs.Json.Parts
import VersionCatalog.Proofs.Json.RoundTrip
import VersionCatalog.Proofs.Json.Writer
import VersionCatalog.Proofs.Occurrence
import VersionCatalog.Proofs.Rule.Compatibility
import VersionCatalog.Proofs.Rule.Messages
import VersionCatalog.Proofs.Rule.References
import VersionCatalog.Proofs.Rule.RepeatedKeys
import VersionCatalog.Proofs.Rule.Vulnerabilities
import VersionCatalog.Proofs.Settings.Outcome
import VersionCatalog.Proofs.Settings.Resolution
import VersionCatalog.Proofs.Settings.Search
import VersionCatalog.Proofs.Text.Assignment
import VersionCatalog.Proofs.Text.AssignmentPatterns
import VersionCatalog.Proofs.Text.Blank
import VersionCatalog.Proofs.Text.LooseHexadecimal
import VersionCatalog.Proofs.Text.Pattern
import VersionCatalog.Proofs.Text.Span
import VersionCatalog.Proofs.Text.Utf8
import VersionCatalog.Proofs.Version.FormReleases
import VersionCatalog.Proofs.Version.Forms
import VersionCatalog.Proofs.Version.NumericRelease
import VersionCatalog.Proofs.Version.Patterns
import VersionCatalog.Proofs.Version.ReleaseOrder
