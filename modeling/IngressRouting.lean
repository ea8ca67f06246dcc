import IngressRouting.Binding
import IngressRouting.Broadcast
import IngressRouting.CommandLine
import IngressRouting.Decimal.Shortest
import IngressRouting.Dict
import IngressRouting.Edition
import IngressRouting.Files.Directory
import IngressRouting.Files.Pathname
import IngressRouting.Gateway
import IngressRouting.Idna.Direction
import IngressRouting.Idna.DirectionData
import IngressRouting.Idna.Domain
import IngressRouting.Idna.MappingData
import IngressRouting.Idna.Normal
import IngressRouting.Idna.NormalData
import IngressRouting.Idna.Punycode
import IngressRouting.IngressObject
import IngressRouting.Json.Buffered
import IngressRouting.Json.Cursor
import IngressRouting.Json.Error
import IngressRouting.Json.Items
import IngressRouting.Json.Number
import IngressRouting.Json.Pass
import IngressRouting.Json.Record
import IngressRouting.Json.Text
import IngressRouting.Json.Value
import IngressRouting.Main
import IngressRouting.Match.Condition
import IngressRouting.Match.Pattern
import IngressRouting.Match.Trait
import IngressRouting.Meters
import IngressRouting.Proofs.Compilation
import IngressRouting.Proofs.Condition.Calls
import IngressRouting.Proofs.Condition.Distinct
import IngressRouting.Proofs.Condition.Literals
import IngressRouting.Proofs.Condition.Nesting
import IngressRouting.Proofs.Condition.ReadBack
import IngressRouting.Proofs.Coverage
import IngressRouting.Proofs.Digits
import IngressRouting.Proofs.Extraction
import IngressRouting.Proofs.Files.Naming
import IngressRouting.Proofs.Gateway.Accounts
import IngressRouting.Proofs.Gateway.Arrivals
import IngressRouting.Proofs.Gateway.Backing
import IngressRouting.Proofs.Gateway.Batches
import IngressRouting.Proofs.Gateway.Books
import IngressRouting.Proofs.Gateway.Claims
import IngressRouting.Proofs.Gateway.Convergence
import IngressRouting.Proofs.Gateway.Demands
import IngressRouting.Proofs.Gateway.Frame
import IngressRouting.Proofs.Gateway.Gauges
import IngressRouting.Proofs.Gateway.History
import IngressRouting.Proofs.Gateway.Independence
import IngressRouting.Proofs.Gateway.Lockstep
import IngressRouting.Proofs.Gateway.Operations
import IngressRouting.Proofs.Gateway.Placeholders
import IngressRouting.Proofs.Gateway.Places
import IngressRouting.Proofs.Gateway.Redelivery
import IngressRouting.Proofs.Gateway.Repetition
import IngressRouting.Proofs.Gateway.Runs
import IngressRouting.Proofs.Gateway.Snapshot
import IngressRouting.Proofs.Gateway.Splits
import IngressRouting.Proofs.Gateway.Verdicts
import IngressRouting.Proofs.Holders
import IngressRouting.Proofs.Json.Buffering
import IngressRouting.Proofs.Json.Collections
import IngressRouting.Proofs.Json.Reading
import IngressRouting.Proofs.Json.Scalars
import IngressRouting.Proofs.Json.Spelling
import IngressRouting.Proofs.Lookup
import IngressRouting.Proofs.Merging
import IngressRouting.Proofs.Meters
import IngressRouting.Proofs.Outputs
import IngressRouting.Proofs.Publication
import IngressRouting.Proofs.Redirect.Interpretation
import IngressRouting.Proofs.Redirect.Origin
import IngressRouting.Proofs.Redirect.Override
import IngressRouting.Proofs.Redirect.Status
import IngressRouting.Proofs.Redirection
import IngressRouting.Proofs.Results
import IngressRouting.Proofs.Roster.Calls
import IngressRouting.Proofs.Roster.Changes
import IngressRouting.Proofs.Roster.Ledger
import IngressRouting.Proofs.Roster.Listing
import IngressRouting.Proofs.Roster.Overview
import IngressRouting.Proofs.Roster.Ranking
import IngressRouting.Proofs.Roster.Refinement
import IngressRouting.Proofs.Roster.Runs
import IngressRouting.Proofs.Roster.Slots
import IngressRouting.Proofs.Roster.Soundness
import IngressRouting.Proofs.Roster.Tenure
import IngressRouting.Proofs.Roster.Undo
import IngressRouting.Proofs.RoundTrip
import IngressRouting.Proofs.Rulebook.Accounting
import IngressRouting.Proofs.Rulebook.Criteria
import IngressRouting.Proofs.Rulebook.MatchOrder
import IngressRouting.Proofs.Rulebook.Queues
import IngressRouting.Proofs.Rulebook.Runs
import IngressRouting.Proofs.Rulebook.Submissions
import IngressRouting.Proofs.Settlement
import IngressRouting.Proofs.StopSignal
import IngressRouting.Proofs.Url.Authority
import IngressRouting.Publication
import IngressRouting.Redirect
import IngressRouting.Rejection
import IngressRouting.Roster
import IngressRouting.Rulebook
import IngressRouting.Rules
import IngressRouting.Settings.Basic
import IngressRouting.Settings.Document
import IngressRouting.StopSignal
import IngressRouting.Table
import IngressRouting.Text.Blank
import IngressRouting.Text.Cut
import IngressRouting.Text.Quoted
import IngressRouting.Toml.Document
import IngressRouting.Toml.Number
import IngressRouting.Toml.Scan
import IngressRouting.Toml.Value
import IngressRouting.Unicode.Ranges
import IngressRouting.Unicode.Unprintable
import IngressRouting.Url.Address
import IngressRouting.Url.Basic
import IngressRouting.Url.Host
import IngressRouting.Watch
import IngressRouting.Weights
import IngressRouting.Wire.Action
import IngressRouting.Wire.Binding
import IngressRouting.Wire.IngressObject
import IngressRouting.Wire.Report
import IngressRouting.Wire.Rules
import IngressRouting.Wire.Settings
import IngressRouting.Wire.Table
