import StreamBalancer.Scheduler

/-!
# StreamBalancer.Scheduler.Stats

The scheduler's state as shown to the outside: one entry per known address, in
byte order.
-/

namespace StreamBalancer

/-- What is shown of a backend. -/
structure BackendStats where
  /-- Where the backend listens. -/
  address : String
  /-- Forwards in flight. -/
  ongoing : Nat
  /-- Whether it takes requests. -/
  inPool : Bool
  /-- Whether it waits for its first tunnel. -/
  connecting : Bool
  /-- Its rank. -/
  weight : Nat
  /-- Slots with a tunnel. -/
  openTunnels : Nat
  /-- Slots. -/
  tunnelSlots : Nat
  /-- Bytes from the backend to clients. -/
  received : UInt64
  /-- Bytes from clients to the backend. -/
  sent : UInt64
deriving DecidableEq, Repr, Inhabited

/-- What is shown of the scheduler. -/
structure Stats where
  /-- Instances in the pool. -/
  poolSize : Nat
  /-- Requests that wait. -/
  pending : Nat
  /-- Forwards in flight. -/
  forwards : Nat
  /-- The known backends. -/
  backends : List BackendStats
deriving DecidableEq, Repr, Inhabited

namespace Scheduler

/-- What is shown of an instance. -/
def describe (s : Scheduler) (connecting : Bool) (b : Nat) : Option BackendStats :=
  (s.fleet.backend? b).map fun x =>
    { address := x.address
      ongoing := x.ongoing
      inPool := s.pool.contains b
      connecting
      weight := x.weight
      openTunnels := x.openTunnels
      tunnelSlots := x.slots.length
      received := x.received
      sent := x.sent }

/-- What is shown at present. -/
def stats (s : Scheduler) : Stats :=
  let shown (d : Directory) (connecting : Bool) : List BackendStats :=
    (d.entries.map Prod.snd).filterMap (s.describe connecting)
  { poolSize := s.pool.size
    pending := s.pending.length
    forwards := s.inFlight
    backends := (shown s.schedulable false ++ shown s.connecting true).mergeSort
      fun x y => !(y.address < x.address) }

/-- What is shown on request: nothing once the scheduler is gone.  A request for
statistics is an event and publishes the gauges. -/
def queryStats (s : Scheduler) : Option Stats × Scheduler :=
  if s.stopped then (none, s) else (some s.stats, s.publishGauges)

end Scheduler

end StreamBalancer
