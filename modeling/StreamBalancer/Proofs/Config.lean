import StreamBalancer.Config.Rules
import StreamBalancer.Proofs.Interleaving.Choice
import StreamBalancer.Proofs.StreamIds
import StreamBalancer.Proofs.Text
import StreamBalancer.Startup

/-!
# StreamBalancer.Proofs.Config

What it means that a configuration violates no rule, and what the rest has of it.

1. `Config.Accepted` says in its own words what the rules ask for; a configuration violates no
   rule if and only if it is so (`Config.isValid_iff`).
2. The parts of a start that read the configuration again agree with the rules
   (`Startup.isChecked_of_run`).

* `Config.accepted` — an accepted configuration is one the rest can rely on.
-/

namespace StreamBalancer

/-! ## The rules -/

/-- What the rules ask of the tunnels. -/
structure TunnelConfig.Accepted (t : TunnelConfig) : Prop where
  port : Text.IsPort t.agentPort
  dialTimeout : 0 < t.dialTimeoutMs
  retryInterval : 0 < t.retryIntervalMs
  highWater : 1 ≤ t.streamIdHighWater ∧ t.streamIdHighWater < maxStreamId

namespace Config

/-- What the rules ask of a configuration. -/
structure Accepted (c : Config) : Prop where
  listen : ∃ addresses, c.listenAddresses = .ok addresses ∧ addresses ≠ []
  backends : 1 ≤ c.backends.length ∧ c.backends.length ≤ c.scheduler.maxBackends
  forwards : 1 ≤ c.scheduler.maxForwardersPerBackend ∧
    c.scheduler.maxForwardersPerBackend ≤ c.scheduler.maxForwarders
  interval : 0 < c.healthCheck.intervalSecs
  timeout : 0 < c.healthCheck.timeoutMs
  command : c.healthCheck.service = .ext →
    ∃ command, c.healthCheck.extCommand = some command ∧ command ≠ ""
  tunnels : 0 < c.tunnel.count → c.tunnel.Accepted

@[simp] theorem require_eq_nil_iff (holds : Bool) (field message : String) :
    require holds field message = [] ↔ holds = true := by
  cases holds <;> simp [require]

theorem listenViolations_eq_nil_iff (c : Config) :
    c.listenViolations = [] ↔ ∃ addresses, c.listenAddresses = .ok addresses ∧ addresses ≠ [] := by
  unfold listenViolations
  cases c.listenAddresses <;> simp

theorem hasCommand_iff (h : HealthCheckConfig) :
    HealthCheckConfig.hasCommand h = true ↔
      ∃ command, h.extCommand = some command ∧ command ≠ "" := by
  rw [HealthCheckConfig.hasCommand, Option.isSome_iff_exists]
  simp [Option.filter_eq_some_iff]

theorem healthViolations_eq_nil_iff (h : HealthCheckConfig) :
    healthViolations h = [] ↔
      (h.service = .ext → ∃ command, h.extCommand = some command ∧ command ≠ "") ∧
        0 < h.intervalSecs ∧ 0 < h.timeoutMs := by
  simp [healthViolations, hasCommand_iff, imp_iff_not_or]

theorem tunnelViolations_eq_nil_iff (t : TunnelConfig) :
    tunnelViolations t = [] ↔ (0 < t.count → t.Accepted) := by
  unfold tunnelViolations
  split
  · next hnone => simp [hnone]
  · next hsome =>
    have hpos : 0 < t.count := Nat.pos_of_ne_zero hsome
    have hmark : 0 < t.streamIdHighWater ↔ 1 ≤ t.streamIdHighWater := by
      simp only [UInt32.lt_iff_toNat_lt, UInt32.le_iff_toNat_le]
      rfl
    simp only [List.append_eq_nil_iff, require_eq_nil_iff, Text.isSome_port?_iff,
      decide_eq_true_eq, Bool.and_eq_true, hmark, hpos, true_implies]
    constructor
    · rintro ⟨⟨⟨port, dial⟩, retry⟩, mark⟩
      exact ⟨port, dial, retry, mark⟩
    · rintro ⟨port, dial, retry, mark⟩
      exact ⟨⟨⟨port, dial⟩, retry⟩, mark⟩

/-- The checks accept what the rules ask for, and nothing else. -/
theorem isValid_iff (c : Config) : c.isValid = true ↔ c.Accepted := by
  have hbackends : c.backendViolations = [] ↔
      1 ≤ c.backends.length ∧ c.backends.length ≤ c.scheduler.maxBackends := by
    simp [backendViolations, List.length_pos_iff, Nat.succ_le_iff]
  have hscheduler : schedulerViolations c.scheduler = [] ↔
      1 ≤ c.scheduler.maxForwardersPerBackend ∧
        c.scheduler.maxForwardersPerBackend ≤ c.scheduler.maxForwarders := by
    simp [schedulerViolations, Nat.succ_le_iff]
  rw [isValid, List.isEmpty_iff, violations]
  simp only [List.append_eq_nil_iff, listenViolations_eq_nil_iff, hbackends,
    healthViolations_eq_nil_iff, hscheduler, tunnelViolations_eq_nil_iff]
  constructor
  · rintro ⟨⟨⟨⟨listen, backends⟩, command, interval, timeout⟩, forwards⟩, tunnels⟩
    exact ⟨listen, backends, forwards, interval, timeout, command, tunnels⟩
  · rintro ⟨listen, backends, forwards, interval, timeout, command, tunnels⟩
    exact ⟨⟨⟨⟨listen, backends⟩, command, interval, timeout⟩, forwards⟩, tunnels⟩

end Config

/-! ## The start -/

/-- Whether an error is about something that the rules have checked. -/
def StartupError.isChecked : StartupError → Bool
  | listen _ | probe _ => true
  | metricsAddress _ | watch | admin _ | listener _ => false

theorem Probe.ofConfig_of_accepted {c : Config} (h : c.Accepted) :
    ∃ probe, Probe.ofConfig c.healthCheck = .ok probe := by
  unfold Probe.ofConfig
  split
  case h_3 hext =>
    obtain ⟨command, hcommand, hne⟩ := h.command hext
    exact ⟨.ext command, by simp [hcommand, Option.filter, hne]⟩
  all_goals exact ⟨_, rfl⟩

namespace Startup

theorem isChecked_of_prepare {c : Config} (h : c.Accepted) {e : StartupError}
    (herror : prepare c = .error e) : e.isChecked = false := by
  obtain ⟨addresses, haddresses, -⟩ := h.listen
  obtain ⟨probe, hprobe⟩ := Probe.ofConfig_of_accepted h
  simp only [prepare, haddresses, hprobe, checkMetrics] at herror
  split at herror
  · cases herror
    rfl
  · cases herror

theorem isChecked_of_startMonitor {file : WatchedFile} {s : Startup} {f : Failure}
    (herror : startMonitor file s = .error f) : f.error.isChecked = false := by
  unfold startMonitor at herror
  split at herror <;> cases herror
  rfl

theorem isChecked_of_startAdmin {system : Binding} {a : AdminConfig} {s : Startup} {f : Failure}
    (herror : startAdmin system a s = .error f) : f.error.isChecked = false := by
  unfold startAdmin at herror
  split at herror
  · cases herror
  · split at herror <;> cases herror
    rfl

theorem isChecked_of_startListeners {system : Binding} {addresses : List ListenAddress}
    {s : Startup} {f : Failure} (herror : startListeners system addresses s = .error f) :
    f.error.isChecked = false := by
  induction addresses generalizing s with
  | nil => cases herror
  | cons a rest ih =>
    unfold startListeners at herror
    split at herror
    · cases herror
      rfl
    · exact ih herror

/-- A start with an accepted configuration fails for nothing that was checked. -/
theorem isChecked_of_run {system : Binding} {c : Config} (h : c.Accepted) {file : WatchedFile}
    {b : Bound} {f : Failure} (herror : run system c file b = .error f) :
    f.error.isChecked = false := by
  unfold run at herror
  split at herror
  · next hprepare =>
    cases herror
    exact isChecked_of_prepare h hprepare
  · next addresses probe _ =>
    cases hmonitor : startMonitor file (startScheduler c probe file b) with
    | error g =>
      rw [hmonitor] at herror
      cases herror
      exact isChecked_of_startMonitor hmonitor
    | ok s =>
      cases hadmin : startAdmin system c.admin s with
      | error g =>
        simp only [hmonitor, hadmin, bind, Except.bind] at herror
        cases herror
        exact isChecked_of_startAdmin hadmin
      | ok s' =>
        simp only [hmonitor, hadmin, bind, Except.bind] at herror
        exact isChecked_of_startListeners herror

end Startup

/-! ## The dispatch -/

namespace Scheduler

/-- Whatever the state, an idle instance on top of the pool gets the request. -/
theorem dispatch_of_idle {c : Config} (h : c.Accepted) {s : Scheduler} {b : Nat} {pool : Pool}
    (hsettings : s.settings = .ofConfig c) (hpop : s.pool.pop s.less = (some b, pool))
    (hidle : s.ongoing b = 0) (r : Nat) :
    s.dispatch r = ({ s with pool } : Scheduler).assign r b := by
  have hroom : ¬ ({ s with pool } : Scheduler).settings.ceiling ≤
      ({ s with pool } : Scheduler).ongoing b := by
    have hidle' : ({ s with pool } : Scheduler).ongoing b = 0 := hidle
    have hceiling : ({ s with pool } : Scheduler).settings.ceiling =
        c.scheduler.maxForwardersPerBackend := congrArg Settings.ceiling hsettings
    have := h.forwards.1
    omega
  rw [dispatch, hpop]
  exact if_neg hroom

end Scheduler

open Scheduler in
/-- At every moment, a request that comes while a best instance is idle goes to an idle one. -/
theorem Life.hands_of_idle {c : Config} (h : c.Accepted) {w : World} {past : List World}
    {permits : Nat} (life : Life (.ofConfig c) permits (w :: past)) {b : Nat}
    (hbest : w.scheduler.Best b) (hidle : w.scheduler.ongoing b = 0) (r : Nat) :
    ∃ b', w.scheduler.ongoing b' = 0 ∧ w.scheduler.Hands r b' (w.scheduler.onRequest r) := by
  have hsettings := life.steady.1
  have hpool : w.scheduler.pool.isEmpty = false :=
    Pool.isEmpty_eq_false_of_mem hbest.pooled
  obtain ⟨b', htop⟩ := Pool.exists_top hpool
  have htopBest := best_of_top life.sound.roster life.pool_ordered htop
  have hidle' : w.scheduler.ongoing b' = 0 := by
    cases hmode : w.scheduler.settings.mode with
    | leastLoaded =>
      have := htopBest.leastLoaded hmode b hbest.pooled
      omega
    | failover =>
      by_contra hbusy
      have hne : b ≠ b' := fun heq => hbusy (heq ▸ hidle)
      have hlt := htopBest.failover hmode b hbest.pooled hne
      have hgt := hbest.failover hmode b' htopBest.pooled hne.symm
      omega
  have hceiling : w.scheduler.settings.ceiling = c.scheduler.maxForwardersPerBackend :=
    congrArg Settings.ceiling hsettings
  have hroom : ¬ w.scheduler.settings.ceiling ≤ w.scheduler.ongoing b' := by
    have := h.forwards.1
    omega
  have hends := onRequest_of_top life.sound.roster htop r
  rw [if_neg hroom] at hends
  exact ⟨b', hidle', hends⟩

/-! ## The result -/

namespace Config

open Scheduler

/-- What the rest relies on. -/
structure Serves (c : Config) : Prop where
  /-- A start fails neither for a listen specification nor for the probe, in whatever system. -/
  starts : ∀ system file b f, Startup.run system c file b = .error f →
    (∀ e, f.error ≠ .listen e) ∧ ∀ e, f.error ≠ .probe e
  /-- An idle instance that is chosen gets the request, in whatever state. -/
  dispatches : ∀ (s : Scheduler) b pool, s.settings = .ofConfig c →
    s.pool.pop s.less = (some b, pool) → s.ongoing b = 0 →
    ∀ r, s.dispatch r = ({ s with pool } : Scheduler).assign r b
  /-- At every moment of every history, a request that comes while a best instance is idle is
  not refused but goes to an idle one. -/
  takes : ∀ w past, Life (.ofConfig c) c.scheduler.maxForwarders (w :: past) →
    ∀ b, w.scheduler.Best b → w.scheduler.ongoing b = 0 →
    ∀ r, ¬ w.scheduler.Refuses r (w.scheduler.onRequest r) ∧
      ∃ b', w.scheduler.ongoing b' = 0 ∧ w.scheduler.Hands r b' (w.scheduler.onRequest r)
  /-- A connection, however often it was used, that has not passed the largest id comes to hand
  out an odd id above the high-water mark. -/
  streams : 0 < c.tunnel.count → ∀ calls, (({} : StreamIds).after calls).next ≤ maxStreamId →
    ∃ further id, ((({} : StreamIds).after calls).after further).allocate.1 = .ok id ∧
      id % 2 = 1 ∧ c.tunnel.streamIdHighWater < id

theorem Accepted.serves {c : Config} (h : c.Accepted) : c.Serves where
  starts system file b f herror := by
    have hchecked := Startup.isChecked_of_run h herror
    constructor <;> intro e he <;> simp [he, StartupError.isChecked] at hchecked
  dispatches _ _ _ hsettings hpop hidle := dispatch_of_idle h hsettings hpop hidle
  takes w past life b hbest hidle r := by
    obtain ⟨b', hidle', hhands⟩ := life.hands_of_idle h hbest hidle r
    exact ⟨hhands.not_refuses, b', hidle', hhands⟩
  streams hcount calls hleft := by
    obtain ⟨hopen, hodd⟩ := StreamIds.after_fresh calls
    obtain ⟨n, hn⟩ := StreamIds.hands_out_last hopen hodd hleft
    exact ⟨n, maxStreamId, hn, by decide, (h.tunnels hcount).highWater.2⟩

/-- **An accepted configuration is one the rest can rely on.**  The checks accept exactly the
configurations that are as the rules ask; and with such a configuration a start does not fail
for what was checked, an idle instance is never at its ceiling, and tunnels can still be used
when they have reached the mark at which they are replaced. -/
theorem accepted (c : Config) :
    (c.isValid = true ↔ c.Accepted) ∧ (c.isValid = true → c.Serves) :=
  ⟨isValid_iff c, fun h => ((isValid_iff c).mp h).serves⟩

/-- One listener from `addr` and `port`, one backend that is probed by a command, and limits at
their bounds. -/
def smallest : Config where
  addr := some "0.0.0.0"
  port := some "3306"
  backends := ["10.0.0.1:3306"]
  healthCheck := { service := .ext, extCommand := some "true", intervalSecs := 1, timeoutMs := 1 }
  scheduler := { maxBackends := 1, maxForwarders := 1, maxForwardersPerBackend := 1 }
  tunnel :=
    { count := 1, agentPort := "+65535", dialTimeoutMs := 1, retryIntervalMs := 1,
      streamIdHighWater := maxStreamId - 1 }

theorem accepted_of_smallest : smallest.isValid = true ∧ smallest.Serves := by
  have hvalid : smallest.isValid = true := by decide +kernel
  exact ⟨hvalid, (accepted smallest).2 hvalid⟩

end Config

end StreamBalancer
