import ImportAtlas.Clock.Calendar
import ImportAtlas.Clock.Moment
import ImportAtlas.Clock.Pattern
import ImportAtlas.CommandLine.Invocation
import ImportAtlas.CommandLine.Option
import ImportAtlas.CommandLine.Usage
import ImportAtlas.CommandLine.Word
import ImportAtlas.Discovery.Find
import ImportAtlas.Discovery.Tracked
import ImportAtlas.Discovery.Walk
import ImportAtlas.Dot
import ImportAtlas.Encoding.Charset
import ImportAtlas.Encoding.Decoder
import ImportAtlas.Encoding.Utf16
import ImportAtlas.Encoding.Utf8
import ImportAtlas.Environment.File
import ImportAtlas.Environment.Load
import ImportAtlas.Environment.Variables
import ImportAtlas.FileTree.Basic
import ImportAtlas.FileTree.Edit
import ImportAtlas.FileTree.Host
import ImportAtlas.FileTree.Lookup
import ImportAtlas.FileTree.Text
import ImportAtlas.Graph.Basic
import ImportAtlas.Graph.Build
import ImportAtlas.Json.Basic
import ImportAtlas.Json.Reader
import ImportAtlas.Json.Writer
import ImportAtlas.Log.Basic
import ImportAtlas.Log.Reported
import ImportAtlas.Main
import ImportAtlas.Number.Binary64
import ImportAtlas.Path
import ImportAtlas.Proofs.Clock.Calendar
import ImportAtlas.Proofs.Clock.Microseconds
import ImportAtlas.Proofs.Clock.Timestamp
import ImportAtlas.Proofs.CommandLine.Options
import ImportAtlas.Proofs.Discovery.Depth
import ImportAtlas.Proofs.Discovery.Handover
import ImportAtlas.Proofs.Discovery.Listing
import ImportAtlas.Proofs.Discovery.Order
import ImportAtlas.Proofs.Discovery.Places
import ImportAtlas.Proofs.Discovery.Reached
import ImportAtlas.Proofs.Discovery.Resolution
import ImportAtlas.Proofs.Discovery.Spelling
import ImportAtlas.Proofs.Discovery.Tracked
import ImportAtlas.Proofs.Dot.Identifiers
import ImportAtlas.Proofs.Dot.Quoting
import ImportAtlas.Proofs.Dot.Reader
import ImportAtlas.Proofs.Dot.Reading
import ImportAtlas.Proofs.Dot.Scanner
import ImportAtlas.Proofs.Encoding.Ascii
import ImportAtlas.Proofs.Encoding.CodePointBytes
import ImportAtlas.Proofs.Encoding.Contents
import ImportAtlas.Proofs.Encoding.Decoded
import ImportAtlas.Proofs.Encoding.Separator
import ImportAtlas.Proofs.Encoding.Spelled
import ImportAtlas.Proofs.Encoding.WellFormed
import ImportAtlas.Proofs.Environment.Assignment
import ImportAtlas.Proofs.Environment.Growth
import ImportAtlas.Proofs.Environment.Repetition
import ImportAtlas.Proofs.Environment.Written
import ImportAtlas.Proofs.FileTree.Fault
import ImportAtlas.Proofs.FileTree.Leads
import ImportAtlas.Proofs.FileTree.Named
import ImportAtlas.Proofs.FileTree.Onward
import ImportAtlas.Proofs.FileTree.Relisting
import ImportAtlas.Proofs.FileTree.Route
import ImportAtlas.Proofs.FileTree.Stored
import ImportAtlas.Proofs.FileTree.Writing
import ImportAtlas.Proofs.Graph.Build
import ImportAtlas.Proofs.Graph.Fault
import ImportAtlas.Proofs.Graph.Grouping
import ImportAtlas.Proofs.Graph.Growth
import ImportAtlas.Proofs.Graph.Imports
import ImportAtlas.Proofs.Graph.Index
import ImportAtlas.Proofs.Graph.Isolation
import ImportAtlas.Proofs.Graph.Package
import ImportAtlas.Proofs.Graph.Partition
import ImportAtlas.Proofs.Graph.Relative
import ImportAtlas.Proofs.Graph.Relocation
import ImportAtlas.Proofs.Graph.Reordering
import ImportAtlas.Proofs.Graph.Undecodable
import ImportAtlas.Proofs.Graph.Widening
import ImportAtlas.Proofs.Json.Ascii
import ImportAtlas.Proofs.Json.Escape
import ImportAtlas.Proofs.Json.RoundTrip
import ImportAtlas.Proofs.Path.Base
import ImportAtlas.Proofs.Path.Canonical
import ImportAtlas.Proofs.Path.Destination
import ImportAtlas.Proofs.Path.Directory
import ImportAtlas.Proofs.Path.Inside
import ImportAtlas.Proofs.Path.Normal
import ImportAtlas.Proofs.Path.Relocation
import ImportAtlas.Proofs.Path.Walk
import ImportAtlas.Proofs.Report.Lossless
import ImportAtlas.Proofs.Run.Delivery
import ImportAtlas.Proofs.Run.Destination
import ImportAtlas.Proofs.Run.Ending
import ImportAtlas.Proofs.Run.Environment
import ImportAtlas.Proofs.Run.Rendering
import ImportAtlas.Proofs.Run.Repetition
import ImportAtlas.Proofs.Run.Stage
import ImportAtlas.Proofs.Settings.Normal
import ImportAtlas.Proofs.Settings.Precedence
import ImportAtlas.Proofs.Settings.Shadowing
import ImportAtlas.Proofs.Settings.Valid
import ImportAtlas.Proofs.Settings.Variable
import ImportAtlas.Proofs.Specifier.Resolution
import ImportAtlas.Proofs.Statement.Completeness
import ImportAtlas.Proofs.Statement.Grammar
import ImportAtlas.Proofs.Statement.Keyword
import ImportAtlas.Proofs.Statement.Label
import ImportAtlas.Proofs.Statement.Leftmost
import ImportAtlas.Proofs.Statement.Merging
import ImportAtlas.Proofs.Statement.OtherKind
import ImportAtlas.Proofs.Statement.Part
import ImportAtlas.Proofs.Statement.Position
import ImportAtlas.Proofs.Statement.Reading
import ImportAtlas.Proofs.Statement.Settled
import ImportAtlas.Proofs.Statement.Single
import ImportAtlas.Proofs.Statement.Soundness
import ImportAtlas.Proofs.Statement.SourceText
import ImportAtlas.Proofs.Statement.Written
import ImportAtlas.Proofs.Text.Digits
import ImportAtlas.Proofs.Text.Distinct
import ImportAtlas.Proofs.Text.Lines
import ImportAtlas.Proofs.Text.LowerCase
import ImportAtlas.Proofs.Text.Span
import ImportAtlas.Proofs.Text.Split
import ImportAtlas.Proofs.Text.Trim
import ImportAtlas.Report
import ImportAtlas.Run.Delivery
import ImportAtlas.Run.Execution
import ImportAtlas.Run.Fault
import ImportAtlas.Settings.Basic
import ImportAtlas.Settings.Check
import ImportAtlas.Settings.Source
import ImportAtlas.Source
import ImportAtlas.Specifier
import ImportAtlas.Statement.Basic
import ImportAtlas.Statement.Occurrence
import ImportAtlas.Statement.Reader
import ImportAtlas.SystemFault
import ImportAtlas.Text.Basic
import ImportAtlas.Text.Blank
import ImportAtlas.Text.CodePoint
import ImportAtlas.Text.DecimalDigit
import ImportAtlas.Text.Lines
import ImportAtlas.Text.LowerCase
import ImportAtlas.Text.Numeral
import ImportAtlas.Text.Printable
import ImportAtlas.Text.Quoted
import ImportAtlas.Text.Ranges
import ImportAtlas.Text.Surrogate
import ImportAtlas.Text.Word
