import Checkup.Catalog
import Checkup.Cli.Arguments
import Checkup.Cli.Files
import Checkup.Cli.Run
import Checkup.Cli.Table
import Checkup.Config
import Checkup.Finding
import Checkup.Json.Basic
import Checkup.Json.Decode
import Checkup.Json.Record
import Checkup.Language.Basic
import Checkup.Language.Classify
import Checkup.Language.Directive
import Checkup.Language.Filename
import Checkup.Language.Heuristic
import Checkup.Link.Mention
import Checkup.Link.Network
import Checkup.Link.Probe
import Checkup.Link.Result
import Checkup.Main
import Checkup.Metrics
import Checkup.Number.Double
import Checkup.Pattern.Basic
import Checkup.Pattern.CharSet
import Checkup.Pattern.Expression
import Checkup.Pattern.Match
import Checkup.Pattern.Reader
import Checkup.Proofs.Absolute
import Checkup.Proofs.Arguments
import Checkup.Proofs.Blanks
import Checkup.Proofs.Boundary
import Checkup.Proofs.Concatenation
import Checkup.Proofs.Consistency
import Checkup.Proofs.Coverage
import Checkup.Proofs.Guarded
import Checkup.Proofs.JsonText
import Checkup.Proofs.Layout
import Checkup.Proofs.Mentions
import Checkup.Proofs.Order
import Checkup.Proofs.Page
import Checkup.Proofs.Reading
import Checkup.Proofs.Results
import Checkup.Proofs.RoundTrip
import Checkup.Proofs.Scan
import Checkup.Proofs.Scores
import Checkup.Proofs.Separation
import Checkup.Proofs.Sorting
import Checkup.Proofs.Spans
import Checkup.Proofs.Successive
import Checkup.Proofs.Sweep
import Checkup.Proofs.Verification
import Checkup.Proofs.Ways
import Checkup.Refusal
import Checkup.Report
import Checkup.Rule.Basic
import Checkup.Rule.Compile
import Checkup.Rule.Link
import Checkup.Rule.Page
import Checkup.Rule.Python
import Checkup.Rule.Script
import Checkup.Rule.Sql
import Checkup.Score
import Checkup.Text.Blank
import Checkup.Text.Lines
import Checkup.Text.Quoted
import Checkup.Unicode.Boundaries
import Checkup.Unicode.Composition
import Checkup.Unicode.CompositionTable
import Checkup.Unicode.DigitTable
import Checkup.Unicode.DirectionTable
import Checkup.Unicode.DomainTable
import Checkup.Unicode.FoldTable
import Checkup.Unicode.JoiningTable
import Checkup.Unicode.PrintableTable
import Checkup.Unicode.Property
import Checkup.Unicode.Rows
import Checkup.Unicode.WordTable
import Checkup.Url.Basic
import Checkup.Url.Domain
import Checkup.Url.Host
import Checkup.Url.Percent
import Checkup.Url.Punycode
import Checkup.Url.Resolve
import Checkup.Proofs.Options
import Checkup.Proofs.Commands
import Checkup.Proofs.Runs
import Checkup.Proofs.LineEnds
import Checkup.Proofs.LineEndSpans
import Checkup.Proofs.LineEndLanguage
import Checkup.Proofs.Stops
import Checkup.Proofs.LineEndMatches
import Checkup.Proofs.Columns
import Checkup.Proofs.Comparisons
import Checkup.Proofs.Calls
import Checkup.Proofs.Independence
import Checkup.Proofs.Assignments
import Checkup.Proofs.Distinct
import Checkup.Proofs.Counts
import Checkup.Proofs.AddressComments
import Checkup.Proofs.JoinedMetrics
import Checkup.Proofs.Filenames
import Checkup.Proofs.Limits
import Checkup.Proofs.Ratings
import Checkup.Proofs.Bounds
import Checkup.Proofs.AddedLines
