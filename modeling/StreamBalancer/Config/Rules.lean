import StreamBalancer.Config
import StreamBalancer.Text.Decimal

/-!
# StreamBalancer.Config.Rules

What a configuration has to satisfy before it is used.  The rules are checked in
a fixed order, each on its own, and every violated one is reported:

1. there is a listen address, and every specification is one; of several wrong
   specifications the first is reported;
2. there is a backend, and there are no more than `max_backends`;
3. the `ext` service has a command;
4. the health intervals are positive;
5. a backend takes at least one forward, and no more than all together may;
6. with tunnels: the agent port is a port, dialing and retrying take time, and
   the high-water mark lies strictly between zero and the largest stream id.
-/

namespace StreamBalancer

/-- A setting that breaks a rule. -/
structure Violation where
  /-- The setting. -/
  field : String
  /-- What is wrong with it. -/
  message : String
deriving DecidableEq, Repr

/-- The violation as one line. -/
def Violation.text (v : Violation) : String := v.field ++ ": " ++ v.message

namespace Config

/-- Report a violation of a rule. -/
def require (holds : Bool) (field message : String) : List Violation :=
  if holds then [] else [⟨field, message⟩]

/-- Violations of the rule on listen addresses. -/
def listenViolations (c : Config) : List Violation :=
  match c.listenAddresses with
  | .error e => [⟨"listen", e.message⟩]
  | .ok addresses => require (!addresses.isEmpty) "listen" "no listen address configured"

/-- Violations of the rules on backends. -/
def backendViolations (c : Config) : List Violation :=
  require (!c.backends.isEmpty) "backends" "empty backend list" ++
    require (c.backends.length ≤ c.scheduler.maxBackends) "backends"
      (toString c.backends.length ++ " backends configured, max_backends is " ++
        toString c.scheduler.maxBackends)

/-- Whether a command is configured. -/
def HealthCheckConfig.hasCommand (h : HealthCheckConfig) : Bool :=
  (h.extCommand.filter (· ≠ "")).isSome

/-- Violations of the rules on health checks. -/
def healthViolations (h : HealthCheckConfig) : List Violation :=
  require (h.service ≠ .ext || HealthCheckConfig.hasCommand h) "health_check.ext_command"
      "required for the ext service" ++
    require (0 < h.intervalSecs) "health_check.interval_secs" "must be > 0" ++
    require (0 < h.timeoutMs) "health_check.timeout_ms" "must be > 0"

/-- Violations of the rules on scheduling. -/
def schedulerViolations (s : SchedulerConfig) : List Violation :=
  require (0 < s.maxForwardersPerBackend) "scheduler.max_forwarders_per_backend" "must be > 0" ++
    require (s.maxForwardersPerBackend ≤ s.maxForwarders) "scheduler.max_forwarders_per_backend"
      "exceeds scheduler.max_forwarders"

/-- Violations of the rules on tunnels, if there are any tunnels. -/
def tunnelViolations (t : TunnelConfig) : List Violation :=
  if t.count = 0 then []
  else
    require (Text.port? t.agentPort).isSome "tunnel.agent_port"
        ("invalid port " ++ Text.quoted t.agentPort) ++
      require (0 < t.dialTimeoutMs) "tunnel.dial_timeout_ms" "must be > 0" ++
      require (0 < t.retryIntervalMs) "tunnel.retry_interval_ms" "must be > 0" ++
      require (0 < t.streamIdHighWater && t.streamIdHighWater < maxStreamId)
        "tunnel.stream_id_high_water" ("must be between 1 and " ++ toString (maxStreamId - 1))

/-- All violations, in the order of the rules. -/
def violations (c : Config) : List Violation :=
  c.listenViolations ++ c.backendViolations ++ healthViolations c.healthCheck ++
    schedulerViolations c.scheduler ++ tunnelViolations c.tunnel

/-- Whether no rule is violated. -/
def isValid (c : Config) : Bool := c.violations.isEmpty

end Config

end StreamBalancer
