import MediaNode.Channel
import MediaNode.Chunk
import MediaNode.Command
import MediaNode.CommandLine.Arguments
import MediaNode.CommandLine.Program
import MediaNode.CommandLine.Report
import MediaNode.Digest
import MediaNode.Double.Basic
import MediaNode.Double.Shortest
import MediaNode.Effect
import MediaNode.Fault
import MediaNode.FileTree
import MediaNode.Json.Basic
import MediaNode.Json.Build
import MediaNode.Json.Diagnosis
import MediaNode.Json.Printer
import MediaNode.Json.Reader
import MediaNode.Json.Shape
import MediaNode.License
import MediaNode.LinkIndex
import MediaNode.Log
import MediaNode.Main
import MediaNode.Node.Chores
import MediaNode.Node.Commands
import MediaNode.Node.Directories
import MediaNode.Node.Housekeeping
import MediaNode.Node.Method
import MediaNode.Node.Requests
import MediaNode.Node.Snapshot
import MediaNode.Node.State
import MediaNode.Path
import MediaNode.Proofs.Chunk
import MediaNode.Proofs.Fault
import MediaNode.Proofs.FileTree
import MediaNode.Proofs.FileTree.Joining
import MediaNode.Proofs.FileTree.Making
import MediaNode.Proofs.Json.Members
import MediaNode.Proofs.Json.Numerals
import MediaNode.Proofs.Json.Reading
import MediaNode.Proofs.Json.Record
import MediaNode.Proofs.Json.Scalars
import MediaNode.Proofs.Json.Written
import MediaNode.Proofs.License
import MediaNode.Proofs.LinkIndex
import MediaNode.Proofs.Node.Activation
import MediaNode.Proofs.Node.Announcements
import MediaNode.Proofs.Node.Answers
import MediaNode.Proofs.Node.Calls
import MediaNode.Proofs.Node.Demand
import MediaNode.Proofs.Node.Directories
import MediaNode.Proofs.Node.Forwarding
import MediaNode.Proofs.Node.Frame
import MediaNode.Proofs.Node.Guards
import MediaNode.Proofs.Node.History
import MediaNode.Proofs.Node.Isolation
import MediaNode.Proofs.Node.License
import MediaNode.Proofs.Node.Links
import MediaNode.Proofs.Node.Monitoring
import MediaNode.Proofs.Node.Numbering
import MediaNode.Proofs.Node.Outgoing
import MediaNode.Proofs.Node.Questions
import MediaNode.Proofs.Node.Reaping
import MediaNode.Proofs.Node.Relaunch
import MediaNode.Proofs.Node.Renewal
import MediaNode.Proofs.Node.Replies
import MediaNode.Proofs.Node.Requests
import MediaNode.Proofs.Node.Service
import MediaNode.Proofs.Node.Sessions
import MediaNode.Proofs.Node.Shutdown
import MediaNode.Proofs.Node.Starts
import MediaNode.Proofs.Node.Supply
import MediaNode.Proofs.Node.Table
import MediaNode.Proofs.Node.Ticks
import MediaNode.Proofs.Outcome
import MediaNode.Proofs.Path
import MediaNode.Proofs.Rpc.Calls
import MediaNode.Proofs.Rpc.Correlation
import MediaNode.Proofs.Rpc.Decoding
import MediaNode.Proofs.Rpc.Ending
import MediaNode.Proofs.Rpc.Framing
import MediaNode.Proofs.Rpc.Message
import MediaNode.Proofs.Rpc.RoundTrip
import MediaNode.Proofs.Rpc.Sharing
import MediaNode.Proofs.Settings
import MediaNode.Proofs.Site.Confinement
import MediaNode.Proofs.Site.Manifest
import MediaNode.Proofs.Site.Trigger
import MediaNode.Proofs.Statistics
import MediaNode.Proofs.Stream.Agreement
import MediaNode.Proofs.Stream.Config
import MediaNode.Proofs.Stream.Endpoint
import MediaNode.Proofs.Stream.Identity
import MediaNode.Proofs.Stream.Preparation
import MediaNode.Proofs.Stream.Validation
import MediaNode.Proofs.Stream.Verdict
import MediaNode.Proofs.Text.Bytes
import MediaNode.Proofs.Text.Hex
import MediaNode.Proofs.Text.Lines
import MediaNode.Proofs.Worker.Closing
import MediaNode.Proofs.Worker.Creation
import MediaNode.Proofs.Worker.Launch
import MediaNode.Proofs.Worker.Lifecycle
import MediaNode.Proofs.Worker.Lineage
import MediaNode.Proofs.Worker.Operation
import MediaNode.Proofs.Worker.Registry
import MediaNode.Proofs.Worker.Relaunch
import MediaNode.Proofs.Worker.Renewal
import MediaNode.Proofs.Worker.Succession
import MediaNode.Proofs.Worker.Usage
import MediaNode.Rpc.Client
import MediaNode.Rpc.ErrorObject
import MediaNode.Rpc.Failure
import MediaNode.Rpc.Frame
import MediaNode.Rpc.Message
import MediaNode.Rpc.Report
import MediaNode.Session
import MediaNode.Settings
import MediaNode.Simulation.Collector
import MediaNode.Simulation.Hands
import MediaNode.Simulation.Machine
import MediaNode.Simulation.Network
import MediaNode.Simulation.Process
import MediaNode.Simulation.Script
import MediaNode.Simulation.Snapshot
import MediaNode.Simulation.Traffic
import MediaNode.Simulation.Waiting
import MediaNode.Site.Basic
import MediaNode.Site.Manifest
import MediaNode.Site.Serve
import MediaNode.Site.Trigger
import MediaNode.Statistics
import MediaNode.Stream.Config
import MediaNode.Stream.Endpoint
import MediaNode.Stream.Error
import MediaNode.Stream.FieldTable
import MediaNode.Stream.Identity
import MediaNode.Stream.Kind
import MediaNode.Stream.Report
import MediaNode.Stream.Rule
import MediaNode.Stream.Spec
import MediaNode.Surroundings
import MediaNode.Text.Blank
import MediaNode.Text.Bytes
import MediaNode.Text.Category
import MediaNode.Text.CharTable
import MediaNode.Text.Composition
import MediaNode.Text.Composition.Table
import MediaNode.Text.Debug
import MediaNode.Text.Hex
import MediaNode.Text.Number
import MediaNode.Text.Similarity
import MediaNode.Upload
import MediaNode.Upload.Exchange
import MediaNode.Url.Basic
import MediaNode.Url.Direction
import MediaNode.Url.Domain
import MediaNode.Url.Host
import MediaNode.Url.Joiner
import MediaNode.Url.Label
import MediaNode.Url.Mapping
import MediaNode.Url.Percent
import MediaNode.Worker.Handle
import MediaNode.Worker.Registry
import MediaNode.Worker.Supervisor
