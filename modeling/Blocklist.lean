import Blocklist.Cascade
import Blocklist.Command.Arguments
import Blocklist.Command.Run
import Blocklist.Compile.Basic
import Blocklist.Compile.Failure
import Blocklist.Compile.Filters
import Blocklist.Compile.Header
import Blocklist.Compile.SampleTables
import Blocklist.Compile.Schedule
import Blocklist.Compile.Stages
import Blocklist.Compile.Tables
import Blocklist.Condition
import Blocklist.Config.Basic
import Blocklist.Config.Loading
import Blocklist.Config.Reading
import Blocklist.Digest.Base64
import Blocklist.Digest.Sha256
import Blocklist.Directive.Block
import Blocklist.Directive.Download
import Blocklist.Directive.Expansion
import Blocklist.Directive.Line
import Blocklist.Fetch.Basic
import Blocklist.Fetch.Error
import Blocklist.Fetch.Web
import Blocklist.Fetch.World
import Blocklist.Files.Basic
import Blocklist.Files.Path
import Blocklist.Filter.Basic
import Blocklist.Filter.Glob
import Blocklist.Hostname.Address
import Blocklist.Hostname.Basic
import Blocklist.Hostname.Idna
import Blocklist.Hostname.Nameprep
import Blocklist.Hostname.NameprepTable
import Blocklist.Hostname.PublicSuffix
import Blocklist.Hostname.Punycode
import Blocklist.Hostname.SuffixRules
import Blocklist.Hostname.Syntax
import Blocklist.Json.Basic
import Blocklist.Json.Fault
import Blocklist.Json.Reading
import Blocklist.Json.Token
import Blocklist.Json.Writing
import Blocklist.Main
import Blocklist.Number.Amount
import Blocklist.Number.Binary64
import Blocklist.Number.Decimal
import Blocklist.Number.Reading
import Blocklist.Optimize.Basic
import Blocklist.Optimize.Merging
import Blocklist.Optimize.Modifiers
import Blocklist.Optimize.Patterns
import Blocklist.Optimize.Redundancy
import Blocklist.Optimize.Stats
import Blocklist.Output.Format
import Blocklist.Output.Hostnames
import Blocklist.Program
import Blocklist.Proofs.Cascade
import Blocklist.Proofs.Command.Run
import Blocklist.Proofs.Compile.Checksum
import Blocklist.Proofs.Compile.Failure
import Blocklist.Proofs.Compile.Header
import Blocklist.Proofs.Compile.Metadata
import Blocklist.Proofs.Compile.Repetition
import Blocklist.Proofs.Compile.Schedule
import Blocklist.Proofs.Compile.Stages
import Blocklist.Proofs.Condition.Closing
import Blocklist.Proofs.Condition.Grammar
import Blocklist.Proofs.Condition.Tokens
import Blocklist.Proofs.Directive.Agreement
import Blocklist.Proofs.Directive.Attempt
import Blocklist.Proofs.Directive.Balance
import Blocklist.Proofs.Directive.Deletion
import Blocklist.Proofs.Directive.Document
import Blocklist.Proofs.Directive.Download
import Blocklist.Proofs.Directive.Expansion
import Blocklist.Proofs.Directive.Failure
import Blocklist.Proofs.Directive.Fetches
import Blocklist.Proofs.Directive.Line
import Blocklist.Proofs.Directive.Mismatch
import Blocklist.Proofs.Directive.Omission
import Blocklist.Proofs.Directive.Origin
import Blocklist.Proofs.Directive.Outline
import Blocklist.Proofs.Directive.Spelling
import Blocklist.Proofs.Fetch.Attempts
import Blocklist.Proofs.Fetch.Error
import Blocklist.Proofs.Files.Path
import Blocklist.Proofs.Filter.Expression
import Blocklist.Proofs.Filter.Glob
import Blocklist.Proofs.Hostname.Address
import Blocklist.Proofs.Hostname.Ancestors
import Blocklist.Proofs.Hostname.Expression
import Blocklist.Proofs.Hostname.Idna
import Blocklist.Proofs.Hostname.PublicSuffix
import Blocklist.Proofs.Hostname.Syntax
import Blocklist.Proofs.Number.Binary64
import Blocklist.Proofs.Optimize.Basic
import Blocklist.Proofs.Optimize.Coverage
import Blocklist.Proofs.Optimize.Groups
import Blocklist.Proofs.Optimize.Merging
import Blocklist.Proofs.Optimize.Modifiers
import Blocklist.Proofs.Optimize.Normal
import Blocklist.Proofs.Optimize.Patterns
import Blocklist.Proofs.Optimize.Redundancy
import Blocklist.Proofs.Optimize.Settled
import Blocklist.Proofs.Optimize.Stability
import Blocklist.Proofs.Output.Canonical
import Blocklist.Proofs.Output.Hostnames
import Blocklist.Proofs.Output.Patterns
import Blocklist.Proofs.Output.Reading
import Blocklist.Proofs.Picks
import Blocklist.Proofs.Regex.Language
import Blocklist.Proofs.Result
import Blocklist.Proofs.Rule.Hosts
import Blocklist.Proofs.Rule.Kind
import Blocklist.Proofs.Rule.Modifiers
import Blocklist.Proofs.Rule.RoundTrip
import Blocklist.Proofs.Text.Basic
import Blocklist.Proofs.Text.Case
import Blocklist.Proofs.Text.Escaped
import Blocklist.Proofs.Text.Normal
import Blocklist.Proofs.Text.Trim
import Blocklist.Proofs.Transform.Compress
import Blocklist.Proofs.Transform.Cover
import Blocklist.Proofs.Transform.Duplicates
import Blocklist.Proofs.Transform.Inversion
import Blocklist.Proofs.Transform.Lines
import Blocklist.Proofs.Transform.Remarks
import Blocklist.Proofs.Validity.Anchored
import Blocklist.Proofs.Validity.Counts
import Blocklist.Proofs.Validity.Hostnames
import Blocklist.Proofs.Validity.Lists
import Blocklist.Proofs.Validity.Patterns
import Blocklist.Proofs.Validity.Rewriting
import Blocklist.Proofs.Validity.Verdict
import Blocklist.Regex.Basic
import Blocklist.Regex.Fault
import Blocklist.Regex.Matching
import Blocklist.Regex.Reading
import Blocklist.Regex.Token
import Blocklist.Rule.Basic
import Blocklist.Rule.Kind
import Blocklist.Rule.Reading
import Blocklist.Source.Location
import Blocklist.Source.Scheme
import Blocklist.Source.Url
import Blocklist.Text.Basic
import Blocklist.Text.Blank
import Blocklist.Text.Case
import Blocklist.Text.CaseTable
import Blocklist.Text.CodeRange
import Blocklist.Text.CompositionTable
import Blocklist.Text.Escaped
import Blocklist.Text.Normal
import Blocklist.Text.PrintableTable
import Blocklist.Text.Quoted
import Blocklist.Text.Utf8
import Blocklist.Text.Word
import Blocklist.Text.WordTable
import Blocklist.Timestamp
import Blocklist.Transform.Ascii
import Blocklist.Transform.Basic
import Blocklist.Transform.Compress
import Blocklist.Transform.Duplicates
import Blocklist.Transform.Lines
import Blocklist.Validity
