import IdleStop.Check.Action
import IdleStop.Check.Run
import IdleStop.Check.Series
import IdleStop.Command
import IdleStop.CommandLine.Arguments
import IdleStop.CommandLine.Flag
import IdleStop.CommandLine.Usage
import IdleStop.Error
import IdleStop.Http.DomainName
import IdleStop.Http.DomainName.Mapping
import IdleStop.Http.DomainName.Punycode
import IdleStop.Http.Host
import IdleStop.Http.Ipv4
import IdleStop.Http.Ipv6
import IdleStop.Http.Path
import IdleStop.Http.Percent
import IdleStop.Http.Status
import IdleStop.Http.Url
import IdleStop.Instance.Control
import IdleStop.Instance.Identity
import IdleStop.Json.Number
import IdleStop.Json.Record
import IdleStop.Json.Token
import IdleStop.Json.Tree
import IdleStop.Log
import IdleStop.LogFilter
import IdleStop.Main
import IdleStop.Notebook.Listing
import IdleStop.Notebook.Session
import IdleStop.Notebook.Terminal
import IdleStop.Numeric.Binary64
import IdleStop.Numeric.Shortest
import IdleStop.Policy
import IdleStop.Proofs.Action
import IdleStop.Proofs.Agreement
import IdleStop.Proofs.Check.Account
import IdleStop.Proofs.Check.Course
import IdleStop.Proofs.Check.Easing
import IdleStop.Proofs.Check.Evaluation
import IdleStop.Proofs.Check.Evidence
import IdleStop.Proofs.Check.Failure
import IdleStop.Proofs.Check.Independence
import IdleStop.Proofs.Check.Instance
import IdleStop.Proofs.Check.KernelState
import IdleStop.Proofs.Check.Metadata
import IdleStop.Proofs.Check.Plan
import IdleStop.Proofs.Check.Protocol
import IdleStop.Proofs.Check.Relevance
import IdleStop.Proofs.Check.Reordering
import IdleStop.Proofs.Check.Series
import IdleStop.Proofs.Check.Skew
import IdleStop.Proofs.Check.Stages
import IdleStop.Proofs.Check.Stopping
import IdleStop.Proofs.Command
import IdleStop.Proofs.CommandLine.Parsing
import IdleStop.Proofs.CommandLine.Scanning
import IdleStop.Proofs.CommandLine.Spelling
import IdleStop.Proofs.Error
import IdleStop.Proofs.Instance.Answer
import IdleStop.Proofs.Instance.Description
import IdleStop.Proofs.Instance.Invocation
import IdleStop.Proofs.Instance.Seconds
import IdleStop.Proofs.Json.Decoding
import IdleStop.Proofs.Json.Field
import IdleStop.Proofs.Json.Grammar
import IdleStop.Proofs.Json.Integer
import IdleStop.Proofs.Json.Lexemes
import IdleStop.Proofs.Json.Parsing
import IdleStop.Proofs.Json.Record
import IdleStop.Proofs.Json.Spellable
import IdleStop.Proofs.Notebook.Fetching
import IdleStop.Proofs.Notebook.Writing
import IdleStop.Proofs.Numeric.Binary64
import IdleStop.Proofs.Numeric.Rounding
import IdleStop.Proofs.Policy
import IdleStop.Proofs.Settings
import IdleStop.Proofs.Settings.File
import IdleStop.Proofs.Settings.Keys
import IdleStop.Proofs.Settings.Statements
import IdleStop.Proofs.Text.Numeral
import IdleStop.Proofs.Text.Order
import IdleStop.Proofs.Text.Quoted
import IdleStop.Proofs.Text.Template
import IdleStop.Proofs.Time.ActivityStamp
import IdleStop.Proofs.Time.Ageing
import IdleStop.Proofs.Time.Civil
import IdleStop.Proofs.Time.Elapsed
import IdleStop.Proofs.Time.Epoch
import IdleStop.Proofs.Time.Order
import IdleStop.Proofs.Time.Reach
import IdleStop.Proofs.Time.Rfc3339
import IdleStop.Proofs.Toml.Composition
import IdleStop.Proofs.Toml.Line
import IdleStop.Proofs.Toml.Members
import IdleStop.Proofs.Toml.Scalar
import IdleStop.Settings
import IdleStop.Text.Alphanumeric
import IdleStop.Text.CodeRange
import IdleStop.Text.Composition
import IdleStop.Text.Digits
import IdleStop.Text.Direction
import IdleStop.Text.Graphic
import IdleStop.Text.Joining
import IdleStop.Text.Parts
import IdleStop.Text.Quoted
import IdleStop.Text.Template
import IdleStop.Text.Terminal
import IdleStop.Text.Utf8
import IdleStop.Time.ActivityStamp
import IdleStop.Time.Calendar
import IdleStop.Time.Civil
import IdleStop.Time.Epoch
import IdleStop.Time.Instant
import IdleStop.Time.Rfc3339
import IdleStop.Toml.Document
import IdleStop.Toml.Scalar
import IdleStop.Toml.Statement
import IdleStop.Toml.Table
import IdleStop.Toml.Token
import IdleStop.Verdict
