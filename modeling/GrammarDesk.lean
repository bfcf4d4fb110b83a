import GrammarDesk.CommandLine.Invocation
import GrammarDesk.CommandLine.Options
import GrammarDesk.CommandLine.Problem
import GrammarDesk.CommandLine.Program
import GrammarDesk.CommandLine.Report
import GrammarDesk.Dialogue
import GrammarDesk.Failure
import GrammarDesk.Grammar.Adapter
import GrammarDesk.Grammar.Call
import GrammarDesk.Grammar.Endpoint
import GrammarDesk.Grammar.Loader
import GrammarDesk.Grammar.Plugin
import GrammarDesk.Grammar.Probe
import GrammarDesk.Grammar.Record
import GrammarDesk.Grammar.Registry
import GrammarDesk.Http.Exchange
import GrammarDesk.Http.Wire
import GrammarDesk.Inspector.Context
import GrammarDesk.Inspector.Engine
import GrammarDesk.Inspector.Graph
import GrammarDesk.Inspector.Job
import GrammarDesk.Inspector.Pass
import GrammarDesk.Inspector.Scheduler
import GrammarDesk.Inspector.Snapshot
import GrammarDesk.Inspector.Timeline
import GrammarDesk.Json.Binary64
import GrammarDesk.Json.Fault
import GrammarDesk.Json.Number
import GrammarDesk.Json.Reader.Cursor
import GrammarDesk.Json.Reader.Document
import GrammarDesk.Json.Reader.Numeral
import GrammarDesk.Json.Reader.Quotation
import GrammarDesk.Json.Reader.Shaped
import GrammarDesk.Json.Render
import GrammarDesk.Json.Shape
import GrammarDesk.Json.Shortest
import GrammarDesk.Json.Value
import GrammarDesk.Main
import GrammarDesk.Proofs.Inspector.Frames
import GrammarDesk.Proofs.Inspector.Run
import GrammarDesk.Proofs.Inspector.Slots
import GrammarDesk.Session
import GrammarDesk.Settings.Environment
import GrammarDesk.Settings.Relay
import GrammarDesk.Settings.VariableFile
import GrammarDesk.Text.Alphanumeric
import GrammarDesk.Text.Blank
import GrammarDesk.Text.Bytes
import GrammarDesk.Text.Combining
import GrammarDesk.Text.Composition
import GrammarDesk.Text.Decimal
import GrammarDesk.Text.Quoted
import GrammarDesk.Text.Ranges
import GrammarDesk.Text.Unprintable
import GrammarDesk.Tree.Lookup
import GrammarDesk.Tree.Mapping
import GrammarDesk.Tree.Mark
import GrammarDesk.Tree.Node
import GrammarDesk.Tree.Result
import GrammarDesk.Tree.Walk
import GrammarDesk.Url.Address
import GrammarDesk.Url.Basic
import GrammarDesk.Url.Domain
import GrammarDesk.Url.Domain.Direction
import GrammarDesk.Url.Domain.Form
import GrammarDesk.Url.Domain.Joiner
import GrammarDesk.Url.Fault
import GrammarDesk.Url.Percent
import GrammarDesk.Url.Punycode
import GrammarDesk.Proofs.Inspector.Linearity
import GrammarDesk.Proofs.Inspector.Currency
import GrammarDesk.Proofs.Inspector.Renewal
import GrammarDesk.Proofs.Inspector.Authorship
import GrammarDesk.Proofs.Inspector.Batch
import GrammarDesk.Proofs.Inspector.Waiting
import GrammarDesk.Proofs.Inspector.Ground
import GrammarDesk.Proofs.Inspector.Coherence
import GrammarDesk.Proofs.Inspector.Snapshots
import GrammarDesk.Proofs.Inspector.Reporting
import GrammarDesk.Proofs.Inspector.Publication
import GrammarDesk.Proofs.Inspector.Commanded
import GrammarDesk.Proofs.Inspector.Pinning
import GrammarDesk.Proofs.Inspector.Settling
import GrammarDesk.Proofs.Inspector.Pacing
import GrammarDesk.Proofs.Inspector.Debounce
import GrammarDesk.Proofs.Inspector.Quiescence
import GrammarDesk.Proofs.Json.Render
import GrammarDesk.Proofs.Tree.Lookup
import GrammarDesk.Proofs.Tree.Mapping
import GrammarDesk.Proofs.Tree.Encoding
import GrammarDesk.Proofs.Tree.Result
import GrammarDesk.Proofs.Tree.Drawing
import GrammarDesk.Proofs.Grammar.Probe
import GrammarDesk.Proofs.Json.Document
import GrammarDesk.Proofs.Grammar.Transparency
import GrammarDesk.Proofs.Tree.Structure
import GrammarDesk.Proofs.Tree.Offender
import GrammarDesk.Proofs.Json.Truth
import GrammarDesk.Proofs.Tree.Answer
import GrammarDesk.Proofs.Tree.OwnMapping
import GrammarDesk.Proofs.Grammar.Contract
import GrammarDesk.Proofs.Grammar.Loading
import GrammarDesk.Proofs.Grammar.Questions
import GrammarDesk.Proofs.Grammar.Upkeep
import GrammarDesk.Proofs.Grammar.Registry
import GrammarDesk.Proofs.Inspector.Hovering
import GrammarDesk.Proofs.Inspector.Learning
import GrammarDesk.Proofs.Json.Entries
import GrammarDesk.Proofs.Json.Reading
import GrammarDesk.Proofs.Json.Spread
import GrammarDesk.Proofs.Json.Legible
import GrammarDesk.Proofs.Json.Shaped
import GrammarDesk.Proofs.Json.Conform
import GrammarDesk.Proofs.Session
import GrammarDesk.Proofs.Text.Bytes
import GrammarDesk.Proofs.Tree.Hint
import GrammarDesk.Proofs.Tree.Strict
import GrammarDesk.Proofs.Inspector.Commuting
import GrammarDesk.Proofs.Inspector.Operations
import GrammarDesk.Proofs.Inspector.Tickets
