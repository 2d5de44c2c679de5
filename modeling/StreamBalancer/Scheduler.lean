import StreamBalancer.Backend.Ranking
import StreamBalancer.Config
import StreamBalancer.Directory
import StreamBalancer.Fleet
import StreamBalancer.Forward
import StreamBalancer.Health.Snapshot
import StreamBalancer.Session

/-!
# StreamBalancer.Scheduler

The state of the scheduler and of all that works for it: the backend instances
known by address, the pool of those that take requests, the requests that wait,
the forwards and sessions under way, and the messages that were sent to the
scheduler and not handled yet.

1. An address is known in one of two tables: as *schedulable*, or as *connecting*
   while its instance waits for its first tunnel.
2. A schedulable instance is in the pool, unless a dial to it failed since the
   last snapshot that named it.
3. Each request holds a permit from its arrival to its end.
4. Timers run on one clock, `now`.  Inspections of tunnels are spaced by another
   one, `uptime`, so that the first may be moved without the second.
-/

namespace StreamBalancer

namespace Scheduler

/-- What the scheduler takes from the configuration. -/
structure Settings where
  /-- The order of the pool. -/
  mode : ScheduleMode
  /-- Whether backends that come up together are added in random order. -/
  shuffle : Bool
  /-- Most backends known at a time. -/
  maxBackends : Nat
  /-- Most forwards of one backend. -/
  ceiling : Nat
  /-- Tunnels per backend. -/
  tunnelCount : Nat
  /-- When tunnels are replaced. -/
  policy : TunnelPolicy
  /-- How agents are dialed. -/
  session : SessionSettings
deriving DecidableEq, Repr, Inhabited

/-- The settings of a configuration. -/
def Settings.ofConfig (c : Config) : Settings where
  mode := c.scheduler.mode
  shuffle := c.scheduler.shuffle
  maxBackends := c.scheduler.maxBackends
  ceiling := c.scheduler.maxForwardersPerBackend
  tunnelCount := c.tunnel.count
  policy := ⟨1000 * c.tunnel.checkIntervalSecs, c.tunnel.streamIdHighWater⟩
  session := ⟨c.tunnel.agentPort, c.tunnel.dialTimeoutMs, c.tunnel.retryIntervalMs⟩

end Scheduler

/-- The scheduler and its helpers. -/
structure Scheduler where
  /-- The settings. -/
  settings : Scheduler.Settings
  /-- All instances and tunnels, with the reports of broken tunnels. -/
  fleet : Fleet := {}
  /-- Instances that take requests. -/
  schedulable : Directory := {}
  /-- Instances without a first tunnel. -/
  connecting : Directory := {}
  /-- The instances among which requests are divided. -/
  pool : Pool := {}
  /-- Requests that wait for an instance, the oldest first. -/
  pending : List Nat := []
  /-- The weight of the next instance: the number of instances created so far. -/
  nextWeight : Nat := 0
  /-- Forwards in flight. -/
  inFlight : Nat := 0
  /-- Permits that no request holds. -/
  permits : Nat := 0
  /-- Tunnels being established. -/
  sessions : List Session := []
  /-- Number of sessions ever asked for. -/
  sessionCount : Nat := 0
  /-- Requests being worked on. -/
  forwards : List Forward := []
  /-- Accepted requests that the scheduler has not seen. -/
  jobs : List Nat := []
  /-- Snapshots that it has not seen. -/
  snapshots : List Snapshot := []
  /-- Tunnels handed over that it has not seen. -/
  handovers : List Handover := []
  /-- Reports of forwards that it has not seen. -/
  outcomes : List Finished := []
  /-- Requests given up before they had a route; their clients are hung up on. -/
  dropped : List Nat := []
  /-- The clock of the timers, in milliseconds. -/
  now : Nat := 0
  /-- The clock of the inspections, in milliseconds. -/
  uptime : Nat := 0
  /-- Whether shutdown has been signalled. -/
  signalled : Bool := false
  /-- Whether the scheduler is gone. -/
  stopped : Bool := false
deriving Inhabited

namespace Scheduler

/-- The scheduler of a configuration, before its first event. -/
def ofConfig (c : Config) : Scheduler :=
  { settings := .ofConfig c, permits := c.scheduler.maxForwarders }

/-! ## Instances -/

/-- The address of an instance. -/
def address (s : Scheduler) (b : Nat) : String :=
  ((s.fleet.backend? b).map Backend.address).getD ""

/-- The forwards of an instance whose end was not handled. -/
def ongoing (s : Scheduler) (b : Nat) : Nat := ((s.fleet.backend? b).map Backend.ongoing).getD 0

/-- Whether an instance was given up. -/
def isRetired (s : Scheduler) (b : Nat) : Bool :=
  ((s.fleet.backend? b).map Backend.retired).getD true

/-- The instance known under an address. -/
def tracked? (s : Scheduler) (address : String) : Option Nat :=
  (s.schedulable.find? address).or (s.connecting.find? address)

/-- Number of addresses known. -/
def trackedCount (s : Scheduler) : Nat := s.schedulable.size + s.connecting.size

/-- Whether an instance is the one known under its address, and not given up. -/
def isCurrent (s : Scheduler) (b : Nat) : Bool :=
  !s.isRetired b && s.tracked? (s.address b) == some b

/-- Change an instance. -/
def modifyBackend (s : Scheduler) (b : Nat) (change : Backend → Backend) : Scheduler :=
  { s with fleet := s.fleet.modifyBackend b change }

/-! ## Measurements -/

/-- Count an event. -/
def count (s : Scheduler) (series : Series) : Scheduler :=
  { s with fleet := s.fleet.count series }

/-- Set the gauge of an address. -/
def setOngoingGauge (s : Scheduler) (address : String) (n : Nat) : Scheduler :=
  { s with fleet := s.fleet.setGauge (.ongoing address) n }

/-- Set the gauge of an instance's address to the instance's load. -/
def showOngoing (s : Scheduler) (b : Nat) : Scheduler := s.setOngoingGauge (s.address b) (s.ongoing b)

/-- Set the gauges of the whole. -/
def publishGauges (s : Scheduler) : Scheduler :=
  { s with
    fleet := ((s.fleet.setGauge .backends s.trackedCount).setGauge .poolSize s.pool.size).setGauge
      .pending s.pending.length }

/-! ## The pool -/

/-- The order of the pool, by the present state of the instances. -/
def less (s : Scheduler) : Nat → Nat → Bool := s.settings.mode.less s.fleet.backends

/-- Put an instance into the pool. -/
def enlist (s : Scheduler) (b : Nat) : Scheduler := { s with pool := s.pool.push s.less b }

/-- Take an instance out of the pool, if it is there. -/
def withdraw (s : Scheduler) (b : Nat) : Scheduler := { s with pool := s.pool.erase s.less b }

/-- Restore the order of the pool after the load of an instance has changed. -/
def resort (s : Scheduler) (b : Nat) : Scheduler := { s with pool := s.pool.update s.less b }

/-! ## Requests, sessions and forwards -/

/-- Give back a permit. -/
def returnPermit (s : Scheduler) : Scheduler := { s with permits := s.permits + 1 }

/-- Give a request up and its permit back. -/
def drop (s : Scheduler) (request : Nat) : Scheduler :=
  { s.returnPermit with dropped := s.dropped ++ [request] }

/-- Ask for a tunnel for a slot. -/
def requestSession (s : Scheduler) (b slot : Nat) : Scheduler :=
  { s with
    sessions := s.sessions ++ [{ number := s.sessionCount, backend := b, slot }]
    sessionCount := s.sessionCount + 1 }

/-- Start the work on a request. -/
def startForward (s : Scheduler) (request b : Nat) : Scheduler :=
  { s with
    inFlight := s.inFlight + 1
    forwards := s.forwards ++ [{ request, backend := b }] }

/-- The forward of a request. -/
def forward? (s : Scheduler) (request : Nat) : Option Forward :=
  s.forwards.find? fun f => f.request == request

/-- Change the stage of the forward of a request. -/
def setForward (s : Scheduler) (request : Nat) (stage : Forward.Stage) : Scheduler :=
  { s with
    forwards := s.forwards.map fun f => if f.request = request then { f with stage } else f }

/-- Remove the forward of a request. -/
def removeForward (s : Scheduler) (request : Nat) : Scheduler :=
  { s with forwards := s.forwards.filter fun f => f.request ≠ request }

/-- The session with a number. -/
def session? (s : Scheduler) (number : Nat) : Option Session :=
  s.sessions.find? fun x => x.number == number

/-- Change the session with a number. -/
def modifySession (s : Scheduler) (number : Nat) (change : Session → Session) : Scheduler :=
  { s with sessions := s.sessions.map fun x => if x.number = number then change x else x }

/-- Remove the session with a number. -/
def removeSession (s : Scheduler) (number : Nat) : Scheduler :=
  { s with sessions := s.sessions.filter fun x => x.number ≠ number }

end Scheduler

end StreamBalancer
