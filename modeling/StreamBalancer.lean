import StreamBalancer.Addresses
import StreamBalancer.Admin
import StreamBalancer.Backend
import StreamBalancer.Backend.Bench
import StreamBalancer.Backend.Ranking
import StreamBalancer.Balancer
import StreamBalancer.Config
import StreamBalancer.Config.Decode
import StreamBalancer.Config.Load
import StreamBalancer.Config.Rules
import StreamBalancer.Delay
import StreamBalancer.Directory
import StreamBalancer.Fleet
import StreamBalancer.Forward
import StreamBalancer.Health.Bench
import StreamBalancer.Health.Galera
import StreamBalancer.Health.Monitor
import StreamBalancer.Health.Probe
import StreamBalancer.Health.ProbeError
import StreamBalancer.Health.Snapshot
import StreamBalancer.InFlight
import StreamBalancer.Listen
import StreamBalancer.Metrics
import StreamBalancer.Net.Bind
import StreamBalancer.Net.HttpStatus
import StreamBalancer.Net.HttpTarget
import StreamBalancer.Net.Listener
import StreamBalancer.Net.ListenerBench
import StreamBalancer.Net.Listeners
import StreamBalancer.Net.NumericAddress
import StreamBalancer.Net.Origin
import StreamBalancer.Net.Peer
import StreamBalancer.Net.SocketAddress
import StreamBalancer.Net.Splice
import StreamBalancer.Opening
import StreamBalancer.Pidfile
import StreamBalancer.Pool
import StreamBalancer.Pool.Keyed
import StreamBalancer.Proofs.Addresses
import StreamBalancer.Proofs.Config
import StreamBalancer.Proofs.Delay
import StreamBalancer.Proofs.Directory
import StreamBalancer.Proofs.Fleet
import StreamBalancer.Proofs.Health.Discovery
import StreamBalancer.Proofs.Health.NodeAddress
import StreamBalancer.Proofs.Health.NodeStatus
import StreamBalancer.Proofs.Health.Pace
import StreamBalancer.Proofs.Health.Questions
import StreamBalancer.Proofs.Health.Rounds
import StreamBalancer.Proofs.Health.Truth
import StreamBalancer.Proofs.InFlight
import StreamBalancer.Proofs.Interleaving
import StreamBalancer.Proofs.Interleaving.Account
import StreamBalancer.Proofs.Interleaving.Balance
import StreamBalancer.Proofs.Interleaving.Books
import StreamBalancer.Proofs.Interleaving.Choice
import StreamBalancer.Proofs.Interleaving.Chronicle
import StreamBalancer.Proofs.Interleaving.Desk
import StreamBalancer.Proofs.Interleaving.Dials
import StreamBalancer.Proofs.Interleaving.Dispatches
import StreamBalancer.Proofs.Interleaving.Eligible
import StreamBalancer.Proofs.Interleaving.Establishment
import StreamBalancer.Proofs.Interleaving.Gauge
import StreamBalancer.Proofs.Interleaving.Handlers
import StreamBalancer.Proofs.Interleaving.Helpers
import StreamBalancer.Proofs.Interleaving.Idempotence
import StreamBalancer.Proofs.Interleaving.Inspections
import StreamBalancer.Proofs.Interleaving.Life
import StreamBalancer.Proofs.Interleaving.Load
import StreamBalancer.Proofs.Interleaving.Numbers
import StreamBalancer.Proofs.Interleaving.Opened
import StreamBalancer.Proofs.Interleaving.Ownership
import StreamBalancer.Proofs.Interleaving.Permits
import StreamBalancer.Proofs.Interleaving.Plan
import StreamBalancer.Proofs.Interleaving.Queue
import StreamBalancer.Proofs.Interleaving.Record
import StreamBalancer.Proofs.Interleaving.Renewals
import StreamBalancer.Proofs.Interleaving.Replay
import StreamBalancer.Proofs.Interleaving.Requests
import StreamBalancer.Proofs.Interleaving.Roster
import StreamBalancer.Proofs.Interleaving.Sessions
import StreamBalancer.Proofs.Interleaving.Slots
import StreamBalancer.Proofs.Interleaving.Snapshots
import StreamBalancer.Proofs.Interleaving.Sound
import StreamBalancer.Proofs.Interleaving.Stretch
import StreamBalancer.Proofs.Interleaving.Supply
import StreamBalancer.Proofs.Interleaving.SweepOrder
import StreamBalancer.Proofs.Interleaving.Sweeps
import StreamBalancer.Proofs.Interleaving.Tables
import StreamBalancer.Proofs.Interleaving.Tally
import StreamBalancer.Proofs.Interleaving.Teardown
import StreamBalancer.Proofs.Interleaving.Tenure
import StreamBalancer.Proofs.Interleaving.Transit
import StreamBalancer.Proofs.Interleaving.Tunnels
import StreamBalancer.Proofs.Interleaving.Turns
import StreamBalancer.Proofs.Keyed
import StreamBalancer.Proofs.Listen
import StreamBalancer.Proofs.Listeners
import StreamBalancer.Proofs.Metrics
import StreamBalancer.Proofs.Pidfile
import StreamBalancer.Proofs.Pool.Histories
import StreamBalancer.Proofs.Pool.Order
import StreamBalancer.Proofs.Pool.Positions
import StreamBalancer.Proofs.Retries
import StreamBalancer.Proofs.Roster
import StreamBalancer.Proofs.Site
import StreamBalancer.Proofs.Split
import StreamBalancer.Proofs.Startup
import StreamBalancer.Proofs.Startup.Course
import StreamBalancer.Proofs.Startup.Endpoints
import StreamBalancer.Proofs.Startup.Failure
import StreamBalancer.Proofs.Stats
import StreamBalancer.Proofs.StopSignal
import StreamBalancer.Proofs.StreamIds
import StreamBalancer.Proofs.Text
import StreamBalancer.Proofs.Traffic
import StreamBalancer.Proofs.Traffic.Drift
import StreamBalancer.Proofs.Traffic.Journey
import StreamBalancer.Proofs.Traffic.Lapses
import StreamBalancer.Proofs.Traffic.Owners
import StreamBalancer.Proofs.Traffic.Slots
import StreamBalancer.Proofs.Traffic.Supply
import StreamBalancer.Proofs.Trim
import StreamBalancer.Proofs.Violations
import StreamBalancer.Proofs.Walk
import StreamBalancer.Registry
import StreamBalancer.Scheduler
import StreamBalancer.Scheduler.Events
import StreamBalancer.Scheduler.Stats
import StreamBalancer.Scheduler.Work
import StreamBalancer.Session
import StreamBalancer.Simulation
import StreamBalancer.Simulation.News
import StreamBalancer.Startup
import StreamBalancer.StopSignal
import StreamBalancer.Text.Blank
import StreamBalancer.Text.Decimal
import StreamBalancer.Text.Duration
import StreamBalancer.Text.Printable
import StreamBalancer.Text.Quoted
import StreamBalancer.Text.Split
import StreamBalancer.Toml.Document
import StreamBalancer.Toml.Scalar
import StreamBalancer.Toml.Value
import StreamBalancer.Tunnel
import StreamBalancer.Tunnel.Address
import StreamBalancer.Tunnel.Agents
import StreamBalancer.Tunnel.Bench
import StreamBalancer.Tunnel.Error
import StreamBalancer.Tunnel.StreamIds
