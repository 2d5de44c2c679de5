import StreamBalancer.Health.Monitor
import StreamBalancer.Net.Bind
import StreamBalancer.Net.NumericAddress
import StreamBalancer.Scheduler.Events

/-!
# StreamBalancer.Startup

What has to succeed before a balancer runs, in this order:

1. every listen specification is one;
2. the metrics address is numeric, if metrics are enabled;
3. the health probe can be made;
4. the configuration file can be watched, if it is to be;
5. the admin interface is bound, if it is enabled;
6. the listeners are bound, one after the other.

The scheduler is started after the third step, the monitor after the fourth, and
the others as soon as they are bound, which is up to the system.  The first failure
ends the start; whatever was started by then is asked to stop, and its end is waited
for.
-/

namespace StreamBalancer

/-- Why a balancer does not start. -/
inductive StartupError where
  /-- A listen specification is wrong. -/
  | listen (cause : ListenError)
  /-- The metrics address is not numeric. -/
  | metricsAddress (address : String)
  /-- The probe cannot be made. -/
  | probe (cause : ProbeError)
  /-- The configuration file cannot be watched. -/
  | watch
  /-- The admin interface is not bound. -/
  | admin (cause : String)
  /-- A listener is not bound. -/
  | listener (cause : BindError)
deriving DecidableEq, Repr

/-- The text of an error, where it is fixed. -/
def StartupError.message? : StartupError → Option String
  | listen cause => some ("invalid listen address: " ++ cause.message)
  | metricsAddress address => some ("invalid metrics address " ++ address)
  | probe cause => cause.message?.map ("health check setup failed: " ++ ·)
  | watch => none
  | admin cause => some ("failed to bind admin API: " ++ cause)
  | listener cause => some cause.message

/-- The configuration file, as far as it is watched. -/
inductive WatchedFile where
  /-- It is not watched. -/
  | unwatched
  /-- It is to be watched and does not exist. -/
  | missing
  /-- It is watched. -/
  | present
deriving DecidableEq, Repr, Inhabited

/-- What runs in the background once it was started. -/
inductive Startup.Task where
  | scheduler
  | monitor
  /-- The admin interface at its address as bound. -/
  | admin (address : String)
  /-- The accept loop at an endpoint as bound. -/
  | listener (endpoint : ListenAddress)
deriving DecidableEq, Repr

/-- A start under way. -/
structure Startup where
  /-- The scheduler. -/
  scheduler : Scheduler
  /-- The health monitor. -/
  monitor : Monitor
  /-- What is bound. -/
  bound : Bound
  /-- What was started and has not ended. -/
  running : List Startup.Task := []
deriving Inhabited

namespace Startup

/-- What a start that has failed leaves. -/
structure Failure where
  /-- Why it has failed. -/
  error : StartupError
  /-- What is bound. -/
  bound : Bound
  /-- What was started and has not ended. -/
  running : List Task := []
  /-- The scheduler, if it was started. -/
  scheduler : Option Scheduler := none

/-! ## Parts -/

/-- The address of the admin interface. -/
def admin? (s : Startup) : Option String :=
  s.running.findSome? fun task => match task with
    | .admin address => some address
    | _ => none

/-- The endpoints of the listeners, in the order in which they were bound. -/
def endpoints (s : Startup) : List ListenAddress :=
  s.running.filterMap fun task => match task with
    | .listener endpoint => some endpoint
    | _ => none

/-- Start something. -/
def spawn (s : Startup) (task : Task) : Startup := { s with running := s.running ++ [task] }

/-- What a task leaves when it ends. -/
def finish (s : Startup) (task : Task) : Startup :=
  let s := { s with running := s.running.erase task }
  match task with
  | .scheduler => { s with scheduler := s.scheduler.signal.stop }
  | .monitor => { s with monitor := s.monitor.halt }
  | .admin address => { s with bound := s.bound.release (.tcp address) }
  | .listener endpoint => { s with bound := s.bound.release endpoint }

/-- Give up: all that was started ends, what was started last ends first. -/
def abandon (s : Startup) (error : StartupError) : Failure :=
  let s := s.running.reverse.foldl finish s
  { error, bound := s.bound, running := s.running, scheduler := some s.scheduler }

/-! ## Steps -/

/-- Check the metrics address. -/
def checkMetrics (o : ObservabilityConfig) : Except StartupError Unit :=
  if o.metricsEnabled && !isNumericAddress o.metricsAddress then
    .error (.metricsAddress o.metricsAddress)
  else .ok ()

/-- What is checked before anything is started: where to listen and how to probe. -/
def prepare (c : Config) : Except StartupError (List ListenAddress × Probe) := do
  let addresses ← c.listenAddresses.mapError .listen
  checkMetrics c.observability
  let probe ← (Probe.ofConfig c.healthCheck).mapError .probe
  return (addresses, probe)

/-- Start the scheduler. -/
def startScheduler (c : Config) (probe : Probe) (file : WatchedFile) (b : Bound) : Startup :=
  let monitor := { Monitor.ofConfig c.healthCheck probe c.backends with
    takesLists := file ≠ .unwatched }
  ({ scheduler := .ofConfig c, monitor, bound := b } : Startup).spawn .scheduler

/-- Watch the configuration file and start the monitor. -/
def startMonitor (file : WatchedFile) (s : Startup) : Except Failure Startup :=
  if file = .missing then .error (s.abandon .watch) else .ok (s.spawn .monitor)

/-- Bind and start the admin interface, if it is enabled. -/
def startAdmin (system : Binding) (a : AdminConfig) (s : Startup) : Except Failure Startup :=
  if !a.enabled then .ok s
  else
    match system.bind s.bound (.tcp a.bindAddress) with
    | .error cause => .error (s.abandon (.admin cause))
    | .ok (address, bound) => .ok ({ s with bound }.spawn (.admin address.address))

/-- Bind and start listeners, each after those before it. -/
def startListeners (system : Binding) : List ListenAddress → Startup → Except Failure Startup
  | [], s => .ok s
  | a :: rest, s =>
    match system.bind s.bound a with
    | .error cause => .error (s.abandon (.listener { address := a, cause }))
    | .ok (endpoint, bound) =>
      startListeners system rest ({ s with bound }.spawn (.listener endpoint))

/-- Start in a system with a configuration of which nothing was checked before. -/
def run (system : Binding) (c : Config) (file : WatchedFile) (b : Bound) : Except Failure Startup :=
  match prepare c with
  | .error error => .error { error, bound := b }
  | .ok (addresses, probe) => do
    let s ← startMonitor file (startScheduler c probe file b)
    let s ← startAdmin system c.admin s
    startListeners system addresses s

end Startup

end StreamBalancer
