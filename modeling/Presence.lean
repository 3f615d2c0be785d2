import Presence.Channel
import Presence.Clock
import Presence.CommandLine
import Presence.CommandLine.Arguments
import Presence.CommandLine.Database
import Presence.Config
import Presence.Disk
import Presence.Dispatcher
import Presence.Double
import Presence.Double.Scaled
import Presence.Double.Shortest
import Presence.Duration
import Presence.Duration.Text
import Presence.Engine.Basic
import Presence.Engine.Step
import Presence.Failure
import Presence.Http.Server
import Presence.Http.Target
import Presence.Json.Literal
import Presence.Json.Number
import Presence.Json.Reader
import Presence.Json.Value
import Presence.Log
import Presence.Main
import Presence.Message
import Presence.Message.Inbound
import Presence.Metrics
import Presence.Name
import Presence.Poller
import Presence.Proofs.Clock
import Presence.Proofs.Double
import Presence.Proofs.Engine.Admission
import Presence.Proofs.Engine.Calls
import Presence.Proofs.Engine.Census
import Presence.Proofs.Engine.Conservation
import Presence.Proofs.Engine.Cycles
import Presence.Proofs.Engine.Deliveries
import Presence.Proofs.Engine.Dismissal
import Presence.Proofs.Engine.Dispatching
import Presence.Proofs.Engine.Endings
import Presence.Proofs.Engine.Feeding
import Presence.Proofs.Engine.Fetches
import Presence.Proofs.Engine.Flags
import Presence.Proofs.Engine.Frames
import Presence.Proofs.Engine.Friends
import Presence.Proofs.Engine.Interruptions
import Presence.Proofs.Engine.Isolation
import Presence.Proofs.Engine.Kinds
import Presence.Proofs.Engine.Lifecycle
import Presence.Proofs.Engine.Lookups
import Presence.Proofs.Engine.Moments
import Presence.Proofs.Engine.Moves
import Presence.Proofs.Engine.Openings
import Presence.Proofs.Engine.Pollers
import Presence.Proofs.Engine.Readers
import Presence.Proofs.Engine.Reading
import Presence.Proofs.Engine.Refreshes
import Presence.Proofs.Engine.Registration
import Presence.Proofs.Engine.Returning
import Presence.Proofs.Engine.Shutdown
import Presence.Proofs.Engine.Stages
import Presence.Proofs.Engine.Starting
import Presence.Proofs.Engine.Wiring
import Presence.Proofs.Fanout
import Presence.Proofs.Http.Callers
import Presence.Proofs.Http.Requests
import Presence.Proofs.Json.Grammar
import Presence.Proofs.Json.Reading
import Presence.Proofs.Json.Tokens
import Presence.Proofs.Message.Encodings
import Presence.Proofs.Message.Pings
import Presence.Proofs.Naming
import Presence.Proofs.NormalForms
import Presence.Proofs.Notices
import Presence.Proofs.Paths
import Presence.Proofs.Relationships
import Presence.Proofs.Script.FetchTimes
import Presence.Proofs.Script.LastWrites
import Presence.Proofs.Script.Submitting
import Presence.Proofs.Script.TickTimes
import Presence.Proofs.Script.Tracing
import Presence.Proofs.Script.WaitingLine
import Presence.Proofs.Settings.Dotenv
import Presence.Proofs.Settings.Keys
import Presence.Proofs.Settings.Layers
import Presence.Proofs.Settings.Numbers
import Presence.Proofs.Settings.Variables
import Presence.Proofs.Simulation.Asking
import Presence.Proofs.Simulation.Settling
import Presence.Proofs.Simulation.Workload
import Presence.Proofs.Spelling
import Presence.Proofs.Store.Bindings
import Presence.Proofs.Store.Commands
import Presence.Proofs.Store.Friendships
import Presence.Proofs.Store.Listing
import Presence.Proofs.Store.Reopening
import Presence.Proofs.Store.Rows
import Presence.Proofs.Store.Sheets
import Presence.Proofs.Store.Ties
import Presence.Queue
import Presence.Refresh
import Presence.Relationships
import Presence.Script.Flags
import Presence.Script.Invocations
import Presence.Script.Lines
import Presence.Script.Lists
import Presence.Script.Notices
import Presence.Script.Polling
import Presence.Script.Refreshing
import Presence.Script.Reply
import Presence.Script.Serving
import Presence.Script.Storing
import Presence.Script.Submissions
import Presence.Script.Web
import Presence.Session
import Presence.Settings
import Presence.Settings.Dotenv
import Presence.Settings.Setting
import Presence.Simulation.World
import Presence.Status
import Presence.Store
import Presence.Store.Archive
import Presence.Switchboard
import Presence.Table
import Presence.Text.Blank
import Presence.Text.Letters
import Presence.Text.Lowercase
import Presence.Text.Quoted
import Presence.Text.Ranges
import Presence.Text.Visible
import Presence.Toml.Document
import Presence.Toml.Reader
