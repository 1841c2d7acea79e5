import FlowRuns.Database.Tables
import FlowRuns.Main
import FlowRuns.Stats.Formula
import FlowRuns.Stats.Race
import FlowRuns.Proofs.Binary64.Position
import FlowRuns.Proofs.Binary64.Sign
import FlowRuns.Proofs.Stats.Bounds
import FlowRuns.Proofs.Program
import FlowRuns.Proofs.Stats.AtomicUpdate
import FlowRuns.Proofs.Boundary
import FlowRuns.Proofs.Text.Percent
import FlowRuns.Proofs.Url.Path
import FlowRuns.Proofs.Url.Address
import FlowRuns.Proofs.Url.Host
import FlowRuns.Proofs.Url.Authority
import FlowRuns.Proofs.Url.Reading
import FlowRuns.Proofs.Url.Segments
import FlowRuns.Proofs.Proxy.PathCall
import FlowRuns.Proofs.Proxy.Endpoint
import FlowRuns.Proofs.Logs.Growth
import FlowRuns.Proofs.Database.Rows
import FlowRuns.Proofs.History.Recording
import FlowRuns.Proofs.History.Latest
import FlowRuns.Proofs.History.Agreement
import FlowRuns.Proofs.Dataflow.Saving
import FlowRuns.Proofs.History.SameRuns
import FlowRuns.Proofs.Dataflow.Snapshot
import FlowRuns.Proofs.Session
import FlowRuns.Proofs.Stats.Rerecording
import FlowRuns.Proofs.Proxy.Exchange
import FlowRuns.Proofs.Proxy.Sync
import FlowRuns.Proofs.Stats.Race
import FlowRuns.Proofs.Stats.Grouping
import FlowRuns.Proofs.Stats.Exact
import FlowRuns.Proofs.Binary64.Value
import FlowRuns.Proofs.Stats.WeightedMean
import FlowRuns.Proofs.Database.Transaction
import FlowRuns.Proofs.Session.Isolation
import FlowRuns.Proofs.Proxy.Calls
import FlowRuns.Proofs.Proxy.Answers
import FlowRuns.Proofs.Json.Fields
import FlowRuns.Proofs.Settings.Leaf
import FlowRuns.Proofs.Settings.Layers
import FlowRuns.Proofs.Settings.Overriding
import FlowRuns.Proofs.Settings.Verbatim
import FlowRuns.Proofs.History.Answer
import FlowRuns.Proofs.History.Upserting
import FlowRuns.Proofs.Binary64.Neutral
import FlowRuns.Proofs.Binary64.Error
import FlowRuns.Proofs.Binary64.Nearness
import FlowRuns.Proofs.Binary64.ExactSum
import FlowRuns.Proofs.Stats.OneDate
import FlowRuns.Proofs.Stats.Sentinel
import FlowRuns.Proofs.Stats.Accuracy
import FlowRuns.Proofs.Stats.Reordering
import FlowRuns.Proofs.Json.Ordered
import FlowRuns.Proofs.Json.Records
import FlowRuns.Proofs.Proxy.Report
import FlowRuns.Proofs.Proxy.Listing
import FlowRuns.Proofs.Text.Utf8
import FlowRuns.Proofs.Text.Form
import FlowRuns.Proofs.Dataflow.Metadata
import FlowRuns.Proofs.Proxy.Query
import FlowRuns.Proofs.Calendar.Gregorian
import FlowRuns.Proofs.Calendar.Written
import FlowRuns.Proofs.Calendar.Timeline
import FlowRuns.Proofs.Proxy.StartTime
