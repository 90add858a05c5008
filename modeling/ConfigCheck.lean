import ConfigCheck.Check.Checker
import ConfigCheck.Check.Document
import ConfigCheck.Check.Error
import ConfigCheck.Check.Report
import ConfigCheck.Check.SchemaFile
import ConfigCheck.Check.Target
import ConfigCheck.CommandLine.Arguments
import ConfigCheck.CommandLine.Flag
import ConfigCheck.CommandLine.Help
import ConfigCheck.CommandLine.Run
import ConfigCheck.CommandLine.UsageError
import ConfigCheck.Decimal.Binary64
import ConfigCheck.Decimal.Notation
import ConfigCheck.Decimal.Number
import ConfigCheck.Decimal.Shortest
import ConfigCheck.Document.Content
import ConfigCheck.Document.Format
import ConfigCheck.File.Change
import ConfigCheck.File.Error
import ConfigCheck.File.Path
import ConfigCheck.File.System
import ConfigCheck.File.Tree
import ConfigCheck.Json.Path
import ConfigCheck.Json.Printer
import ConfigCheck.Json.Reader
import ConfigCheck.Json.Value
import ConfigCheck.Main
import ConfigCheck.Proofs.Check.Classification
import ConfigCheck.Proofs.Check.Directory
import ConfigCheck.Proofs.Check.FailClosed
import ConfigCheck.Proofs.Check.FailFast
import ConfigCheck.Proofs.Check.Gate
import ConfigCheck.Proofs.Check.Origin
import ConfigCheck.Proofs.CommandLine.Complaint
import ConfigCheck.Proofs.CommandLine.Verbosity
import ConfigCheck.Proofs.CommandLine.Verdict
import ConfigCheck.Proofs.Decimal.Interval
import ConfigCheck.Proofs.Decimal.Layout
import ConfigCheck.Proofs.Decimal.Minimal
import ConfigCheck.Proofs.Decimal.Normal
import ConfigCheck.Proofs.Decimal.Precision
import ConfigCheck.Proofs.Decimal.Rounding
import ConfigCheck.Proofs.Decimal.Shortest
import ConfigCheck.Proofs.Document.Empty
import ConfigCheck.Proofs.Document.Format
import ConfigCheck.Proofs.Document.Keys
import ConfigCheck.Proofs.Document.Load
import ConfigCheck.Proofs.Document.Merged
import ConfigCheck.Proofs.Document.SameText
import ConfigCheck.Proofs.File.Path
import ConfigCheck.Proofs.File.Walk
import ConfigCheck.Proofs.Json.Everywhere
import ConfigCheck.Proofs.Json.Leaf
import ConfigCheck.Proofs.Json.Members
import ConfigCheck.Proofs.Json.Nearest
import ConfigCheck.Proofs.Json.Numeral
import ConfigCheck.Proofs.Json.OneLine
import ConfigCheck.Proofs.Json.Ordered
import ConfigCheck.Proofs.Json.Place
import ConfigCheck.Proofs.Json.RoundTrip
import ConfigCheck.Proofs.Json.Source
import ConfigCheck.Proofs.Outcome
import ConfigCheck.Proofs.Report.Account
import ConfigCheck.Proofs.Report.Diagnostic
import ConfigCheck.Proofs.Report.Location
import ConfigCheck.Proofs.Report.OneLine
import ConfigCheck.Proofs.Report.Rendering
import ConfigCheck.Proofs.Schema.Admits
import ConfigCheck.Proofs.Schema.Assembly
import ConfigCheck.Proofs.Schema.Buried
import ConfigCheck.Proofs.Schema.Category
import ConfigCheck.Proofs.Schema.Collect
import ConfigCheck.Proofs.Schema.Compile
import ConfigCheck.Proofs.Schema.Composition
import ConfigCheck.Proofs.Schema.Fault
import ConfigCheck.Proofs.Schema.Follow
import ConfigCheck.Proofs.Schema.Law
import ConfigCheck.Proofs.Schema.Local
import ConfigCheck.Proofs.Schema.Location
import ConfigCheck.Proofs.Schema.MetaSchema
import ConfigCheck.Proofs.Schema.Missing
import ConfigCheck.Proofs.Schema.Names
import ConfigCheck.Proofs.Schema.Origin
import ConfigCheck.Proofs.Schema.Outcome
import ConfigCheck.Proofs.Schema.Pointer
import ConfigCheck.Proofs.Schema.Reached
import ConfigCheck.Proofs.Schema.Reading
import ConfigCheck.Proofs.Schema.Refuse
import ConfigCheck.Proofs.Schema.Remote
import ConfigCheck.Proofs.Schema.Structure
import ConfigCheck.Proofs.Schema.Trace
import ConfigCheck.Proofs.Shape.Accept
import ConfigCheck.Proofs.Shape.Around
import ConfigCheck.Proofs.Shape.Basic
import ConfigCheck.Proofs.Shape.Compile
import ConfigCheck.Proofs.Shape.Defect
import ConfigCheck.Proofs.Shape.Read
import ConfigCheck.Proofs.Shape.Refer
import ConfigCheck.Proofs.Shape.Verdict
import ConfigCheck.Proofs.Text.Utf8
import ConfigCheck.Proofs.Uri.Fragment
import ConfigCheck.Proofs.Uri.Reader
import ConfigCheck.Proofs.Uri.Settled
import ConfigCheck.Proofs.Yaml.Complete
import ConfigCheck.Proofs.Yaml.Compose
import ConfigCheck.Proofs.Yaml.Conversion
import ConfigCheck.Proofs.Yaml.Entries
import ConfigCheck.Proofs.Yaml.Everywhere
import ConfigCheck.Proofs.Yaml.Expansion
import ConfigCheck.Proofs.Yaml.KeyText
import ConfigCheck.Proofs.Yaml.Loading
import ConfigCheck.Proofs.Yaml.Marker
import ConfigCheck.Proofs.Yaml.Meaning
import ConfigCheck.Proofs.Yaml.Merging
import ConfigCheck.Proofs.Yaml.NumberText
import ConfigCheck.Proofs.Yaml.Offender
import ConfigCheck.Proofs.Yaml.Outline
import ConfigCheck.Proofs.Yaml.Parse
import ConfigCheck.Proofs.Yaml.Plain
import ConfigCheck.Proofs.Yaml.Quoted
import ConfigCheck.Proofs.Yaml.Regular
import ConfigCheck.Proofs.Yaml.Scan
import ConfigCheck.Proofs.Yaml.Scanner
import ConfigCheck.Proofs.Yaml.Spelling
import ConfigCheck.Proofs.Yaml.Void
import ConfigCheck.Regex.Automaton
import ConfigCheck.Regex.Backtrack
import ConfigCheck.Regex.Bracket
import ConfigCheck.Regex.CharClass
import ConfigCheck.Regex.Escape
import ConfigCheck.Regex.Expression
import ConfigCheck.Regex.Footprint
import ConfigCheck.Regex.Grammar
import ConfigCheck.Regex.Octets
import ConfigCheck.Regex.Pattern
import ConfigCheck.Regex.Places
import ConfigCheck.Regex.Plan
import ConfigCheck.Regex.Property
import ConfigCheck.Regex.Reader
import ConfigCheck.Report.Diagnostic
import ConfigCheck.Report.Log
import ConfigCheck.Report.Violation
import ConfigCheck.Schema.Assertion
import ConfigCheck.Schema.Basic
import ConfigCheck.Schema.Complaint
import ConfigCheck.Schema.Defect
import ConfigCheck.Schema.Draft
import ConfigCheck.Schema.Evaluate
import ConfigCheck.Schema.Lookup
import ConfigCheck.Schema.MetaSchema
import ConfigCheck.Schema.MetaSchema.Draft2019
import ConfigCheck.Schema.MetaSchema.Draft2020
import ConfigCheck.Schema.MetaSchema.Legacy
import ConfigCheck.Schema.Outcome
import ConfigCheck.Schema.Read
import ConfigCheck.Schema.Resource
import ConfigCheck.Schema.Scope
import ConfigCheck.Schema.Validator
import ConfigCheck.StringFormat.Address
import ConfigCheck.StringFormat.Basic
import ConfigCheck.StringFormat.Pointer
import ConfigCheck.StringFormat.Time
import ConfigCheck.Text.Age
import ConfigCheck.Text.Blank
import ConfigCheck.Text.Break
import ConfigCheck.Text.CaseFold
import ConfigCheck.Text.Category
import ConfigCheck.Text.CharSet
import ConfigCheck.Text.Letter
import ConfigCheck.Text.Newest
import ConfigCheck.Text.Printable
import ConfigCheck.Text.Property
import ConfigCheck.Text.Quoted
import ConfigCheck.Text.Record
import ConfigCheck.Text.Script
import ConfigCheck.Text.ScriptExtension
import ConfigCheck.Text.Similarity
import ConfigCheck.Text.Utf8
import ConfigCheck.Uri.Address
import ConfigCheck.Uri.Basic
import ConfigCheck.Uri.Character
import ConfigCheck.Uri.Reader
import ConfigCheck.Uri.Resolve
import ConfigCheck.Yaml.Cursor
import ConfigCheck.Yaml.Document
import ConfigCheck.Yaml.Error
import ConfigCheck.Yaml.Event
import ConfigCheck.Yaml.Event.Grammar
import ConfigCheck.Yaml.Merge
import ConfigCheck.Yaml.Node
import ConfigCheck.Yaml.Reader
import ConfigCheck.Yaml.Scalar
import ConfigCheck.Yaml.SyntaxError
import ConfigCheck.Yaml.ToJson
import ConfigCheck.Yaml.Token
import ConfigCheck.Yaml.Token.Block
import ConfigCheck.Yaml.Token.Flow
import ConfigCheck.Yaml.Token.Property
import ConfigCheck.Yaml.Token.Stream
