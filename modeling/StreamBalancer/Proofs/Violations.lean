import StreamBalancer.Config.Rules
import StreamBalancer.Proofs.Text

/-!
# StreamBalancer.Proofs.Violations

What the checks of a configuration report.

1. The rules are told one by one, with what breaks them and how that is reported (`Config.Rule`).
   The checks report the broken ones, each once, in the order of the rules
   (`Config.violations_eq`).
2. That all listen specifications are right is one rule, and its report is about the first one that
   is wrong (`Config.parseAll_cases`).
3. So a configuration in which everything reported was put right may still have wrong
   specifications, which are reported then, one at a time (`Config.Repairs.violations_eq`).

* `Config.rules_reported` — what is reported, and what is left after a repair;
* `Config.second_fault_unreported` — of two wrong specifications one is reported.
-/

namespace StreamBalancer

/-- What is wrong with a listen specification, if anything is. -/
def ListenAddress.fault? (spec : String) : Option ListenError :=
  match ListenAddress.parse spec with
  | .ok _ => none
  | .error e => some e

namespace Config

/-! ## Rules -/

/-- What is wrong with the listen specifications, in their order. -/
def faults (c : Config) : List ListenError := c.listen.filterMap ListenAddress.fault?

/-- Whether `addr` and `port` give a listener. -/
def HasLegacy (c : Config) : Prop :=
  ∃ addr port, c.addr = some addr ∧ c.port = some port ∧ addr ≠ "" ∧ port ≠ ""

/-- What a configuration is checked for. -/
inductive Rule where
  /-- All listen specifications are right. -/
  | specifications
  /-- There is a listener. -/
  | listener
  | backend
  | maxBackends
  | extCommand
  | healthInterval
  | healthTimeout
  | forwarder
  | maxForwarders
  | agentPort
  | dialTimeout
  | retryInterval
  | highWater
deriving DecidableEq, Repr

namespace Rule

/-- The rules in their order. -/
def all : List Rule :=
  [specifications, listener, backend, maxBackends, extCommand, healthInterval, healthTimeout,
    forwarder, maxForwarders, agentPort, dialTimeout, retryInterval, highWater]

/-- What it means that a configuration breaks a rule. -/
def IsBroken (c : Config) : Rule → Prop
  | specifications => c.faults ≠ []
  | listener => c.listen = [] ∧ ¬ c.HasLegacy
  | backend => c.backends = []
  | maxBackends => c.scheduler.maxBackends < c.backends.length
  | extCommand => c.healthCheck.service = .ext ∧
      (c.healthCheck.extCommand = none ∨ c.healthCheck.extCommand = some "")
  | healthInterval => c.healthCheck.intervalSecs = 0
  | healthTimeout => c.healthCheck.timeoutMs = 0
  | forwarder => c.scheduler.maxForwardersPerBackend = 0
  | maxForwarders => c.scheduler.maxForwarders < c.scheduler.maxForwardersPerBackend
  | agentPort => 0 < c.tunnel.count ∧ ¬ Text.IsPort c.tunnel.agentPort
  | dialTimeout => 0 < c.tunnel.count ∧ c.tunnel.dialTimeoutMs = 0
  | retryInterval => 0 < c.tunnel.count ∧ c.tunnel.retryIntervalMs = 0
  | highWater => 0 < c.tunnel.count ∧
      (c.tunnel.streamIdHighWater = 0 ∨ maxStreamId ≤ c.tunnel.streamIdHighWater)

/-- How a broken rule is reported. -/
def report (c : Config) : Rule → Violation
  | specifications => ⟨"listen", (c.faults.head?.map ListenError.message).getD ""⟩
  | listener => ⟨"listen", "no listen address configured"⟩
  | backend => ⟨"backends", "empty backend list"⟩
  | maxBackends => ⟨"backends", toString c.backends.length ++ " backends configured, max_backends is " ++
      toString c.scheduler.maxBackends⟩
  | extCommand => ⟨"health_check.ext_command", "required for the ext service"⟩
  | healthInterval => ⟨"health_check.interval_secs", "must be > 0"⟩
  | healthTimeout => ⟨"health_check.timeout_ms", "must be > 0"⟩
  | forwarder => ⟨"scheduler.max_forwarders_per_backend", "must be > 0"⟩
  | maxForwarders => ⟨"scheduler.max_forwarders_per_backend", "exceeds scheduler.max_forwarders"⟩
  | agentPort => ⟨"tunnel.agent_port", "invalid port " ++ Text.quoted c.tunnel.agentPort⟩
  | dialTimeout => ⟨"tunnel.dial_timeout_ms", "must be > 0"⟩
  | retryInterval => ⟨"tunnel.retry_interval_ms", "must be > 0"⟩
  | highWater => ⟨"tunnel.stream_id_high_water", "must be between 1 and 2147483646"⟩

end Rule

theorem hasLegacy_iff (c : Config) : c.HasLegacy ↔ c.legacyListen ≠ none := by
  unfold HasLegacy legacyListen
  split
  · next addr port haddr hport => simp [haddr, hport]
  · next hmissing =>
    simp only [ne_eq, not_true_eq_false, iff_false]
    rintro ⟨addr, port, haddr, hport, -⟩
    exact hmissing addr port haddr hport

instance (c : Config) : Decidable c.HasLegacy := decidable_of_iff' _ c.hasLegacy_iff

instance (s : String) : Decidable (Text.IsPort s) := decidable_of_iff _ (Text.isSome_port?_iff s)

instance (c : Config) : DecidablePred (Rule.IsBroken c)
  | .specifications => inferInstanceAs (Decidable (c.faults ≠ []))
  | .listener => inferInstanceAs (Decidable (_ ∧ _))
  | .backend => inferInstanceAs (Decidable (_ = _))
  | .maxBackends => inferInstanceAs (Decidable (_ < _))
  | .extCommand => inferInstanceAs (Decidable (_ ∧ (_ ∨ _)))
  | .healthInterval => inferInstanceAs (Decidable (_ = _))
  | .healthTimeout => inferInstanceAs (Decidable (_ = _))
  | .forwarder => inferInstanceAs (Decidable (_ = _))
  | .maxForwarders => inferInstanceAs (Decidable (_ < _))
  | .agentPort => inferInstanceAs (Decidable (_ ∧ ¬ _))
  | .dialTimeout => inferInstanceAs (Decidable (_ ∧ _))
  | .retryInterval => inferInstanceAs (Decidable (_ ∧ _))
  | .highWater => inferInstanceAs (Decidable (_ ∧ (_ ∨ _)))

/-! ## Listen specifications -/

/-- The specifications are read up to the first one that is wrong. -/
theorem parseAll_cases (specs : List String) :
    (∃ e rest, specs.filterMap ListenAddress.fault? = e :: rest ∧ parseAll specs = .error e) ∨
      ∃ addresses, specs.filterMap ListenAddress.fault? = [] ∧ parseAll specs = .ok addresses ∧
        (addresses = [] ↔ specs = []) := by
  induction specs with
  | nil => exact .inr ⟨[], rfl, rfl, by simp⟩
  | cons spec specs ih =>
      rw [parseAll, List.filterMap_cons, ListenAddress.fault?]
      cases ListenAddress.parse spec with
      | error e => exact .inl ⟨e, _, rfl, rfl⟩
      | ok a =>
          obtain ⟨e, rest, hfaults, hparse⟩ | ⟨addresses, hfaults, hparse, -⟩ := ih
          · exact .inl ⟨e, rest, hfaults, by rw [hparse]; rfl⟩
          · exact .inr ⟨a :: addresses, hfaults, by rw [hparse]; rfl, by simp⟩

/-! ## Reports -/

/-- What a rule adds to the report. -/
def Rule.found (c : Config) (r : Rule) : List Violation :=
  if r.IsBroken c then [r.report c] else []

theorem require_eq_found {c : Config} {r : Rule} {holds : Bool} {field message : String}
    (h : holds = true ↔ ¬ r.IsBroken c) (hreport : ⟨field, message⟩ = r.report c) :
    require holds field message = r.found c := by
  unfold require Rule.found
  split
  · next hholds => rw [if_neg (h.1 hholds)]
  · next hfails =>
    rw [if_pos (Decidable.byContradiction fun hbroken => hfails (h.2 hbroken)), hreport]

/-- The check of the listeners covers two rules, at most one of which is broken. -/
theorem listenViolations_eq (c : Config) :
    c.listenViolations = Rule.found c .specifications ++ Rule.found c .listener := by
  have hlegacy := c.hasLegacy_iff
  obtain ⟨e, rest, hfaults, hparse⟩ | ⟨addresses, hfaults, hparse, hnil⟩ := parseAll_cases c.listen
  · have hspec : Rule.IsBroken c .specifications := by
      rw [Rule.IsBroken, faults, hfaults]
      exact List.cons_ne_nil _ _
    have hlistener : ¬ Rule.IsBroken c .listener := by
      rintro ⟨hempty, -⟩
      rw [hempty] at hfaults
      contradiction
    rw [Rule.found, if_pos hspec, Rule.found, if_neg hlistener, listenViolations, listenAddresses,
      hparse, Rule.report, faults, hfaults]
    rfl
  · have hspec : ¬ Rule.IsBroken c .specifications := fun h => h hfaults
    rw [Rule.found, if_neg hspec, List.nil_append, listenViolations, listenAddresses, hparse]
    refine require_eq_found ?_ rfl
    simp only [Rule.IsBroken, ← hnil, hlegacy]
    cases c.legacyListen with
    | none => simp
    | some legacy =>
        dsimp only
        split <;> cases addresses <;> simp_all

theorem backendViolations_eq (c : Config) :
    c.backendViolations = Rule.found c .backend ++ Rule.found c .maxBackends := by
  have hbackend : (!c.backends.isEmpty) = true ↔ ¬ Rule.IsBroken c .backend := by
    simp [Rule.IsBroken]
  have hmax : decide (c.backends.length ≤ c.scheduler.maxBackends) = true ↔
      ¬ Rule.IsBroken c .maxBackends := by
    simp [Rule.IsBroken]
  rw [backendViolations, require_eq_found hbackend rfl, require_eq_found hmax rfl]

theorem healthViolations_eq (c : Config) :
    healthViolations c.healthCheck =
      Rule.found c .extCommand ++ Rule.found c .healthInterval ++ Rule.found c .healthTimeout := by
  have hcommand : HealthCheckConfig.hasCommand c.healthCheck = true ↔
      ¬ (c.healthCheck.extCommand = none ∨ c.healthCheck.extCommand = some "") := by
    unfold HealthCheckConfig.hasCommand
    cases c.healthCheck.extCommand <;> simp [Option.filter]
  have hext : (decide (c.healthCheck.service ≠ .ext) ||
      HealthCheckConfig.hasCommand c.healthCheck) = true ↔ ¬ Rule.IsBroken c .extCommand := by
    rw [Bool.or_eq_true, decide_eq_true_eq, hcommand, Rule.IsBroken, Decidable.not_and_iff_not_or_not]
  have hinterval : decide (0 < c.healthCheck.intervalSecs) = true ↔
      ¬ Rule.IsBroken c .healthInterval := by
    simp [Rule.IsBroken, Nat.pos_iff_ne_zero]
  have htimeout : decide (0 < c.healthCheck.timeoutMs) = true ↔
      ¬ Rule.IsBroken c .healthTimeout := by
    simp [Rule.IsBroken, Nat.pos_iff_ne_zero]
  rw [healthViolations, require_eq_found hext rfl, require_eq_found hinterval rfl,
    require_eq_found htimeout rfl]

theorem schedulerViolations_eq (c : Config) :
    schedulerViolations c.scheduler =
      Rule.found c .forwarder ++ Rule.found c .maxForwarders := by
  have hforwarder : decide (0 < c.scheduler.maxForwardersPerBackend) = true ↔
      ¬ Rule.IsBroken c .forwarder := by
    simp [Rule.IsBroken, Nat.pos_iff_ne_zero]
  have hmax : decide (c.scheduler.maxForwardersPerBackend ≤ c.scheduler.maxForwarders) = true ↔
      ¬ Rule.IsBroken c .maxForwarders := by
    simp [Rule.IsBroken]
  rw [schedulerViolations, require_eq_found hforwarder rfl, require_eq_found hmax rfl]

/-- Without tunnels no rule on them is broken. -/
theorem tunnelViolations_eq (c : Config) :
    tunnelViolations c.tunnel =
      Rule.found c .agentPort ++ Rule.found c .dialTimeout ++ Rule.found c .retryInterval ++
        Rule.found c .highWater := by
  unfold tunnelViolations
  split
  · next hcount => simp [Rule.found, Rule.IsBroken, hcount]
  · next hcount =>
    have hpos : 0 < c.tunnel.count := Nat.pos_of_ne_zero hcount
    have hport : (Text.port? c.tunnel.agentPort).isSome = true ↔ ¬ Rule.IsBroken c .agentPort := by
      simp [Rule.IsBroken, hpos, Text.isSome_port?_iff]
    have hdial : decide (0 < c.tunnel.dialTimeoutMs) = true ↔ ¬ Rule.IsBroken c .dialTimeout := by
      simp [Rule.IsBroken, hpos, Nat.pos_iff_ne_zero]
    have hretry : decide (0 < c.tunnel.retryIntervalMs) = true ↔
        ¬ Rule.IsBroken c .retryInterval := by
      simp [Rule.IsBroken, hpos, Nat.pos_iff_ne_zero]
    have hhigh : (decide (0 < c.tunnel.streamIdHighWater) &&
        decide (c.tunnel.streamIdHighWater < maxStreamId)) = true ↔
          ¬ Rule.IsBroken c .highWater := by
      rw [Bool.and_eq_true, decide_eq_true_eq, decide_eq_true_eq, Rule.IsBroken,
        and_iff_right hpos, not_or, UInt32.not_le, UInt32.pos_iff_ne_zero]
    have hlast : "must be between 1 and " ++ toString (maxStreamId - 1) =
        "must be between 1 and 2147483646" := by decide
    rw [hlast, require_eq_found hport rfl, require_eq_found hdial rfl, require_eq_found hretry rfl,
      require_eq_found hhigh rfl]

/-- The broken rules are reported, each once and in the order of the rules. -/
theorem violations_eq (c : Config) :
    c.violations = (Rule.all.filter fun r => decide (r.IsBroken c)).map (Rule.report c) := by
  have hfound : ∀ rules : List Rule, rules.flatMap (Rule.found c) =
      (rules.filter fun r => decide (r.IsBroken c)).map (Rule.report c) := by
    intro rules
    induction rules with
    | nil => rfl
    | cons r rules ih =>
        rw [List.flatMap_cons, ih, Rule.found, List.filter_cons]
        by_cases hbroken : r.IsBroken c <;> simp [hbroken]
  rw [violations, listenViolations_eq, backendViolations_eq, healthViolations_eq,
    schedulerViolations_eq, tunnelViolations_eq, ← hfound]
  simp only [Rule.all, List.flatMap_cons, List.flatMap_nil, List.append_nil, List.append_assoc]

theorem Rule.mem_all (r : Rule) : r ∈ Rule.all := by
  cases r <;> decide

theorem isValid_iff_forall (c : Config) : c.isValid = true ↔ ∀ r : Rule, ¬ r.IsBroken c := by
  rw [isValid, violations_eq, List.isEmpty_iff, List.map_eq_nil_iff, List.filter_eq_nil_iff]
  simp [Rule.mem_all]

/-! ## Repairs -/

/-- What is reported about `c` was put right in `c'`: of the listen specifications the first wrong
one, and the settings of all other rules. -/
structure Repairs (c c' : Config) : Prop where
  specifications : c.faults = [] ∧ c'.faults = [] ∨
    ∃ before wrong right rest, c.listen = before ++ wrong :: rest ∧
      before.filterMap ListenAddress.fault? = [] ∧ ListenAddress.fault? wrong ≠ none ∧
      ListenAddress.fault? right = none ∧ c'.listen = before ++ right :: rest
  rules : ∀ r : Rule, r ≠ .specifications → ¬ r.IsBroken c'

namespace Repairs

variable {c c' : Config}

/-- One wrong specification is put right. -/
theorem faults_eq (h : c.Repairs c') : c'.faults = c.faults.tail := by
  obtain ⟨hc, hc'⟩ | ⟨before, wrong, right, rest, hlisten, hbefore, hwrong, hright, hlisten'⟩ :=
    h.specifications
  · rw [hc, hc']
    rfl
  · obtain ⟨e, he⟩ := Option.ne_none_iff_exists'.1 hwrong
    simp [faults, hlisten, hlisten', hbefore, he, hright]

/-- Only a wrong specification can be reported then. -/
theorem violations_eq (h : c.Repairs c') :
    c'.violations = (c.faults[1]?.map fun e => ⟨"listen", e.message⟩).toList := by
  have hrest : ∀ rules : List Rule, .specifications ∉ rules →
      rules.filter (fun r => decide (r.IsBroken c')) = [] := by
    intro rules hnot
    rw [List.filter_eq_nil_iff]
    intro r hr
    rw [decide_eq_true_eq]
    exact h.rules r fun heq => hnot (heq ▸ hr)
  rw [Config.violations_eq, Rule.all, List.filter_cons, hrest _ (by decide), ← List.head?_tail,
    ← h.faults_eq]
  cases hfaults : c'.faults with
  | nil => simp [Rule.IsBroken, hfaults]
  | cons e faults => simp [Rule.IsBroken, Rule.report, hfaults]

end Repairs

/-- What the checks report, and what of it is left after a repair.  Every broken rule is reported
once, in the order of the rules, and a configuration is accepted if no rule is broken.  All listen
specifications together are one rule, and it is reported with the first fault.  After a repair the
second fault is all that can be reported, so the configuration is accepted then if there was no
second one. -/
theorem rules_reported (c : Config) :
    c.violations = (Rule.all.filter fun r => decide (r.IsBroken c)).map (Rule.report c) ∧
    (c.isValid = true ↔ ∀ r : Rule, ¬ r.IsBroken c) ∧
    ∀ c' : Config, c.Repairs c' →
      c'.violations = (c.faults[1]?.map fun e => ⟨"listen", e.message⟩).toList ∧
      (c'.isValid = true ↔ c.faults.length ≤ 1) := by
  refine ⟨c.violations_eq, c.isValid_iff_forall, fun c' h => ⟨h.violations_eq, ?_⟩⟩
  rw [isValid, h.violations_eq, List.isEmpty_iff, Option.toList_eq_nil_iff, Option.map_eq_none_iff,
    List.getElem?_eq_none_iff]

/-- Two wrong listen specifications. -/
def twoWrong : Config :=
  { listen := ["sctp://1.2.3.4:5", "nope"], backends := ["10.0.0.1:3306"] }

/-- The first of them put right. -/
def oneWrong : Config := { twoWrong with listen := ["tcp://1.2.3.4:5", "nope"] }

theorem twoWrong_repairs : twoWrong.Repairs oneWrong :=
  ⟨.inr ⟨[], "sctp://1.2.3.4:5", "tcp://1.2.3.4:5", ["nope"], rfl, rfl, by decide, by decide, rfl⟩,
    by intro r; cases r <;> decide⟩

/-- After the first report and the repair the second wrong specification is reported. -/
theorem rules_reported_of_two_wrong :
    twoWrong.Repairs oneWrong ∧
      twoWrong.violations = [⟨"listen", "unsupported scheme sctp in sctp://1.2.3.4:5"⟩] ∧
      oneWrong.violations =
        [⟨"listen", "incorrect listen addr nope: expected scheme://address"⟩] ∧
      oneWrong.isValid = false := by
  obtain ⟨hviolations, -, hrepaired⟩ := twoWrong.rules_reported
  obtain ⟨hleft, hvalid⟩ := hrepaired oneWrong twoWrong_repairs
  refine ⟨twoWrong_repairs, ?_, ?_, ?_⟩
  · rw [hviolations]
    decide
  · rw [hleft]
    decide
  · rw [Bool.eq_false_iff, Ne, hvalid]
    decide

/-- Not every wrong specification is reported, and putting right what is reported does not always
give a configuration that is accepted. -/
theorem second_fault_unreported :
    (¬ ∀ c : Config, c.violations = c.faults.map (fun e => ⟨"listen", e.message⟩) ++
      (Rule.all.tail.filter fun r => decide (r.IsBroken c)).map (Rule.report c)) ∧
    ¬ ∀ c c' : Config, c.Repairs c' → c'.isValid = true := by
  have hfaults : twoWrong.violations ≠ twoWrong.faults.map (fun e => ⟨"listen", e.message⟩) ++
      (Rule.all.tail.filter fun r => decide (r.IsBroken twoWrong)).map (Rule.report twoWrong) := by
    decide
  exact ⟨fun h => hfaults (h _), fun h => absurd (h _ _ twoWrong_repairs) (by decide)⟩

end Config

end StreamBalancer
