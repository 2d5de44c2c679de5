import StreamBalancer.Backend.Ranking
import StreamBalancer.Listen
import StreamBalancer.Text.Quoted
import StreamBalancer.Tunnel.StreamIds

/-!
# StreamBalancer.Config

The configuration of a balancer: its sections, their defaults, and what follows
from them directly.  Durations are in the unit that their name says.
-/

namespace StreamBalancer

/-- How the health of a backend is probed. -/
inductive ProbeService where
  /-- By a TCP connection. -/
  | tcp
  /-- By an HTTP request. -/
  | http
  /-- By a command that gets the address. -/
  | ext
  /-- By the cluster status of a database node. -/
  | galera
deriving DecidableEq, Repr, Inhabited

/-- The form of log lines. -/
inductive LogFormat where
  | pretty
  | json
deriving DecidableEq, Repr, Inhabited

/-- Health checks. -/
structure HealthCheckConfig where
  service : ProbeService := .tcp
  /-- Time between two rounds. -/
  intervalSecs : Nat := 60
  /-- Time for one probe. -/
  timeoutMs : Nat := 1000
  /-- Time between two rounds while no backend was ever up. -/
  startupRetryMs : Nat := 1000
  httpPath : String := "/"
  extCommand : Option String := none
  user : String := ""
  pass : String := ""
deriving DecidableEq, Repr, Inhabited

/-- Scheduling. -/
structure SchedulerConfig where
  mode : ScheduleMode := .leastLoaded
  /-- Whether backends that come up together are added in random order. -/
  shuffle : Bool := true
  maxBackends : Nat := 128
  /-- Connections in flight, all backends together. -/
  maxForwarders : Nat := 8192
  /-- Connections in flight per backend. -/
  maxForwardersPerBackend : Nat := 4096
deriving DecidableEq, Repr, Inhabited

/-- Tunnels to the backends' agents. -/
structure TunnelConfig where
  /-- Tunnels per backend; none turns tunnels off. -/
  count : Nat := 0
  agentPort : String := "6900"
  dialTimeoutMs : Nat := 1000
  retryIntervalMs : Nat := 1000
  /-- Least time between two inspections of a backend's tunnels. -/
  checkIntervalSecs : Nat := 5
  streamIdHighWater : UInt32 := defaultHighWater
deriving DecidableEq, Repr, Inhabited

/-- Logs and metrics. -/
structure ObservabilityConfig where
  logLevel : String := "info"
  logFormat : LogFormat := .pretty
  metricsEnabled : Bool := false
  metricsAddress : String := "127.0.0.1:9090"
deriving DecidableEq, Repr, Inhabited

/-- The admin interface. -/
structure AdminConfig where
  enabled : Bool := false
  apiKey : String := "CHANGE_ME_IN_PRODUCTION"
  bindAddress : String := "127.0.0.1:8081"
deriving DecidableEq, Repr, Inhabited

/-- The life of the process. -/
structure LifecycleConfig where
  pidfile : Option String := none
  drainTimeoutSecs : Nat := 10
deriving DecidableEq, Repr, Inhabited

/-- The configuration of a balancer. -/
structure Config where
  /-- Listen specifications. -/
  listen : List String := []
  /-- Host of one more TCP listener; counts only together with `port`. -/
  addr : Option String := none
  /-- Port of that listener. -/
  port : Option String := none
  /-- The addresses that the health monitor probes. -/
  backends : List String := []
  healthCheck : HealthCheckConfig := {}
  scheduler : SchedulerConfig := {}
  tunnel : TunnelConfig := {}
  observability : ObservabilityConfig := {}
  admin : AdminConfig := {}
  lifecycle : LifecycleConfig := {}
deriving DecidableEq, Repr, Inhabited

/-- The spelling of a probe service. -/
def ProbeService.spelling : ProbeService → String
  | tcp => "tcp"
  | http => "http"
  | ext => "ext"
  | galera => "galera"

/-- The spelling of a schedule mode. -/
def ScheduleMode.spelling : ScheduleMode → String
  | leastLoaded => "least_loaded"
  | failover => "failover"

/-- The spelling of a log format. -/
def LogFormat.spelling : LogFormat → String
  | pretty => "pretty"
  | json => "json"

namespace Config

/-- The listener that `addr` and `port` describe, if neither is missing or empty. -/
def legacyListen (c : Config) : Option ListenAddress :=
  match c.addr, c.port with
  | some addr, some port =>
    if addr = "" ∨ port = "" then none else some (.tcp (addr ++ ":" ++ port))
  | _, _ => none

/-- Read listen specifications up to the first that is wrong. -/
def parseAll : List String → Except ListenError (List ListenAddress)
  | [] => .ok []
  | spec :: rest =>
    match ListenAddress.parse spec with
    | .error e => .error e
    | .ok a => (parseAll rest).map (a :: ·)

/-- Where clients are accepted: as specified, and then the listener of `addr` and
`port` unless it is there already. -/
def listenAddresses (c : Config) : Except ListenError (List ListenAddress) :=
  (parseAll c.listen).map fun addresses =>
    match c.legacyListen with
    | some legacy => if legacy ∈ addresses then addresses else addresses ++ [legacy]
    | none => addresses

/-- One line on what is configured. -/
def summary (c : Config) : String :=
  "listen on " ++ Text.quotedList c.listen ++ ", backends: " ++ Text.quotedList c.backends

end Config

end StreamBalancer
