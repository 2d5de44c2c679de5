import StreamBalancer.Config
import StreamBalancer.Toml.Value

/-!
# StreamBalancer.Config.Decode

Reading a configuration off the entries of a document.

1. A missing setting has its default; an unknown one is ignored.
2. A value has exactly the kind that the setting takes: a float is no integer and
   an integer no float, and a number has to fit.
3. A section is a table.  It may also be an array, which gives the settings in
   their order; a date-time reads as a section without settings.
4. A choice is given by its spelling, or as a table with the spelling for its key
   and an empty table or array for its value.
-/

namespace StreamBalancer.Config

open Toml (Value Entries)

/-- How the settings of a section are looked up: by name and position. -/
abbrev Fields := (name : String) → (position : Nat) → Option Value

/-- The settings of a section. -/
def fieldsOf : Value → Option Fields
  | .table _ entries => some fun name _ => entries.lookup name
  | .array _ items => some fun _ position => items[position]?
  | .datetime => some fun _ _ => none
  | _ => none

/-- A text. -/
def text? : Value → Option String
  | .string s => some s
  | _ => none

/-- A text that may be left out. -/
def someText? (v : Value) : Option (Option String) := (text? v).map some

/-- A flag. -/
def flag? : Value → Option Bool
  | .boolean b => some b
  | _ => none

/-- A number below a bound. -/
def numberBelow? (bound : Nat) : Value → Option Nat
  | .integer n => if 0 ≤ n ∧ n < bound then some n.toNat else none
  | _ => none

/-- A 64-bit number. -/
def number? (v : Value) : Option Nat := numberBelow? UInt64.size v

/-- A 32-bit number. -/
def word? (v : Value) : Option UInt32 := (numberBelow? UInt32.size v).map Nat.toUInt32

/-- All values of a list of options, if none is missing. -/
def allSome {α : Type} : List (Option α) → Option (List α)
  | [] => some []
  | none :: _ => none
  | some a :: rest => (allSome rest).map (a :: ·)

/-- A list of texts. -/
def texts? : Value → Option (List String)
  | .array _ items => allSome (items.map text?)
  | _ => none

/-- The word that a choice is given by. -/
def choiceWord? : Value → Option String
  | .string s => some s
  | .table kind entries =>
    match entries with
    | [] => none
    | (name, value) :: rest =>
      if kind = .closed ∧ rest ≠ [] then none
      else
        match value with
        | .table _ [] | .array _ [] => some name
        | _ => none
  | _ => none

/-- The choice with a spelling. -/
def choice? {α : Type} (choices : List α) (spelling : α → String) (v : Value) : Option α :=
  (choiceWord? v).bind fun w => choices.find? fun a => spelling a = w

/-- A setting, or its default if it is missing. -/
def setting {α : Type} (fields : Fields) (name : String) (position : Nat)
    (read? : Value → Option α) (default : α) : Option α :=
  match fields name position with
  | none => some default
  | some v => read? v

/-- A section, or its default if it is missing. -/
def sectionOf {α : Type} (read? : Fields → Option α) (v : Value) : Option α :=
  (fieldsOf v).bind read?

/-- The health check section. -/
def healthCheck? (fields : Fields) : Option HealthCheckConfig := do
  let d : HealthCheckConfig := {}
  let service ← setting fields "service" 0
    (choice? [.tcp, .http, .ext, .galera] ProbeService.spelling) d.service
  let intervalSecs ← setting fields "interval_secs" 1 number? d.intervalSecs
  let timeoutMs ← setting fields "timeout_ms" 2 number? d.timeoutMs
  let startupRetryMs ← setting fields "startup_retry_ms" 3 number? d.startupRetryMs
  let httpPath ← setting fields "http_path" 4 text? d.httpPath
  let extCommand ← setting fields "ext_command" 5 someText? d.extCommand
  let user ← setting fields "user" 6 text? d.user
  let pass ← setting fields "pass" 7 text? d.pass
  return { service, intervalSecs, timeoutMs, startupRetryMs, httpPath, extCommand, user, pass }

/-- The scheduler section. -/
def scheduler? (fields : Fields) : Option SchedulerConfig := do
  let d : SchedulerConfig := {}
  let mode ← setting fields "mode" 0
    (choice? [.leastLoaded, .failover] ScheduleMode.spelling) d.mode
  let shuffle ← setting fields "shuffle" 1 flag? d.shuffle
  let maxBackends ← setting fields "max_backends" 2 number? d.maxBackends
  let maxForwarders ← setting fields "max_forwarders" 3 number? d.maxForwarders
  let maxForwardersPerBackend ←
    setting fields "max_forwarders_per_backend" 4 number? d.maxForwardersPerBackend
  return { mode, shuffle, maxBackends, maxForwarders, maxForwardersPerBackend }

/-- The tunnel section. -/
def tunnel? (fields : Fields) : Option TunnelConfig := do
  let d : TunnelConfig := {}
  let count ← setting fields "count" 0 number? d.count
  let agentPort ← setting fields "agent_port" 1 text? d.agentPort
  let dialTimeoutMs ← setting fields "dial_timeout_ms" 2 number? d.dialTimeoutMs
  let retryIntervalMs ← setting fields "retry_interval_ms" 3 number? d.retryIntervalMs
  let checkIntervalSecs ← setting fields "check_interval_secs" 4 number? d.checkIntervalSecs
  let streamIdHighWater ← setting fields "stream_id_high_water" 5 word? d.streamIdHighWater
  return { count, agentPort, dialTimeoutMs, retryIntervalMs, checkIntervalSecs, streamIdHighWater }

/-- The observability section. -/
def observability? (fields : Fields) : Option ObservabilityConfig := do
  let d : ObservabilityConfig := {}
  let logLevel ← setting fields "log_level" 0 text? d.logLevel
  let logFormat ← setting fields "log_format" 1
    (choice? [.pretty, .json] LogFormat.spelling) d.logFormat
  let metricsEnabled ← setting fields "metrics_enabled" 2 flag? d.metricsEnabled
  let metricsAddress ← setting fields "metrics_address" 3 text? d.metricsAddress
  return { logLevel, logFormat, metricsEnabled, metricsAddress }

/-- The admin section. -/
def admin? (fields : Fields) : Option AdminConfig := do
  let d : AdminConfig := {}
  let enabled ← setting fields "enabled" 0 flag? d.enabled
  let apiKey ← setting fields "api_key" 1 text? d.apiKey
  let bindAddress ← setting fields "bind_address" 2 text? d.bindAddress
  return { enabled, apiKey, bindAddress }

/-- The lifecycle section. -/
def lifecycle? (fields : Fields) : Option LifecycleConfig := do
  let d : LifecycleConfig := {}
  let pidfile ← setting fields "pidfile" 0 someText? d.pidfile
  let drainTimeoutSecs ← setting fields "drain_timeout_secs" 1 number? d.drainTimeoutSecs
  return { pidfile, drainTimeoutSecs }

/-- The configuration that the entries of a document describe. -/
def ofEntries? (entries : Entries) : Option Config := do
  let fields : Fields := fun name _ => entries.lookup name
  let d : Config := {}
  let listen ← setting fields "listen" 0 texts? d.listen
  let addr ← setting fields "addr" 1 someText? d.addr
  let port ← setting fields "port" 2 someText? d.port
  let backends ← setting fields "backends" 3 texts? d.backends
  let healthCheck ← setting fields "health_check" 4 (sectionOf healthCheck?) d.healthCheck
  let scheduler ← setting fields "scheduler" 5 (sectionOf scheduler?) d.scheduler
  let tunnel ← setting fields "tunnel" 6 (sectionOf tunnel?) d.tunnel
  let observability ←
    setting fields "observability" 7 (sectionOf observability?) d.observability
  let admin ← setting fields "admin" 8 (sectionOf admin?) d.admin
  let lifecycle ← setting fields "lifecycle" 9 (sectionOf lifecycle?) d.lifecycle
  return { listen, addr, port, backends, healthCheck, scheduler, tunnel, observability, admin, lifecycle }

end StreamBalancer.Config
