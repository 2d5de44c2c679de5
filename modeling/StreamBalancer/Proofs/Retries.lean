import StreamBalancer.Proofs.Config
import StreamBalancer.Proofs.Health.Pace
import StreamBalancer.Proofs.Interleaving.Dials

/-!
# StreamBalancer.Proofs.Retries

What the checks of a configuration do for the loops that try again.

1. With a configuration that they accept, neither rounds that come with ticks nor dials follow each
   other without a delay, and a stretch of time holds only so many of them
   (`Config.retries_paced`).
2. They do not look at the delay between startup rounds.  When nobody is healthy these follow each
   other exactly that delay apart (`exists_startup_rounds`), so there is a moment between them in
   every run just if it is positive.
3. With a delay of zero they follow each other at once.  So do a tick and a round that has taken an
   interval (`Config.rounds_at_once`).
-/

namespace StreamBalancer

open Monitor (Lap Diary tickSlack)
open Scheduler

/-- How many of some times lie in a stretch of time. -/
def countWithin (a b : Nat) (times : List Nat) : Nat := (times.filter fun t => a ≤ t ∧ t ≤ b).length

/-- What is so of the rounds of a monitor, the last one first. -/
structure Monitor.Lap.Measured (retry interval : Nat) (laps : List Lap) : Prop where
  /-- Each round leaves the delay after the one before. -/
  follows : (Lap.own laps).IsChain (Lap.Follows retry interval)
  /-- After a round that was brief there is a moment before the tick. -/
  apart : (Lap.own laps).IsChain fun next previous =>
    next.cause = .tick → previous.IsBrief interval → next.Apart previous
  /-- There are only so many startup rounds in any stretch of time. -/
  startups : ∀ a b, (countWithin a b (Lap.starts .startup laps) - 1) * retry ≤ b - a
  /-- There are only so many ticks in any stretch of time. -/
  ticks : ∀ a b, (countWithin a b (Lap.starts .tick laps) - 1) * interval ≤ b - a + tickSlack

/-- What is so of the dials of a session, the last one first. -/
structure Dial.Measured (delay : Nat) (dials : List Dial) : Prop where
  /-- Each dial waited for the delay after the end of the one before. -/
  rested : Dial.Paced delay dials
  /-- There are only so many in any stretch of time. -/
  few : ∀ a b, (countWithin a b (dials.map Dial.began) - 1) * delay ≤ b - a

theorem Monitor.Lap.Paced.measured {retry interval : Nat} {laps : List Lap} (hpos : 0 < interval)
    (h : Lap.Paced retry interval laps) : Lap.Measured retry interval laps where
  follows := h.follows
  apart := h.follows.imp fun _ _ hfollows htick hbrief => hfollows.apart htick hpos hbrief
  startups := h.startups.count_le
  ticks := h.ticks.count_le

theorem Dial.Paced.measured {delay : Nat} {dials : List Dial} (h : Dial.Paced delay dials) :
    Dial.Measured delay dials where
  rested := h
  few := h.spaced.count_le

/-! ## Rounds in which nobody is healthy -/

/-- Every address refuses. -/
def refusing : Answering := fun _ => some (.error (.connect "Connection refused (os error 111)"))

namespace Monitor

/-- A round in which every question fails finds nobody. -/
theorem healthy_roundOf (m : Monitor) {answers : Galera.Answers}
    (h : ∀ q, Galera.verdict (answers q) = .down) :
    (Snapshot.mk (m.roundOf answers).results).healthy = [] := by
  rw [List.eq_nil_iff_forall_not_mem]
  intro a ha
  rw [Snapshot.mem_healthy] at ha
  dsimp only at ha
  unfold roundOf at ha
  split at ha
  · rw [Galera.results_eq] at ha
    simp [Galera.verdicts, h] at ha
  · simp [plainRound, h] at ha

/-- Such a round is over at once, and sends nothing. -/
theorem proceed_refusing (m : Monitor) : ∃ backends record,
    m.proceed refusing [] = ({ m with backends, record } : Monitor).endRound false := by
  have hdown : ∀ q, Galera.verdict (m.answerOf refusing [] q) = .down := fun q => rfl
  have hopen : ∀ asked, m.openQuestions refusing [] asked = ([], asked) := by
    intro asked
    have hnone : asked.filter (isOpen refusing []) = [] := by simp [isOpen, refusing]
    simp [openQuestions, hnone]
  refine ⟨(m.roundOf (m.answerOf refusing [])).directors, ⟨[]⟩, ?_⟩
  simp [proceed, hopen, conclude, HealthRecord.observe, m.healthy_roundOf hdown, Snapshot.ofHealthy,
    Snapshot.isEmpty]

/-- A startup round in which nobody is healthy. -/
theorem Diary.fail {h : HealthCheckConfig} {probe : Probe} {backends : List String}
    {laps : List Lap} {m : Monitor} (diary : Diary h probe backends laps m)
    (hidle : m.activity = .idle) (hstarted : m.started = false) (hdue : m.due ≤ m.now) :
    ∃ m', Diary h probe backends (⟨.startup, m.now, some m.now⟩ :: laps) m' ∧
      m'.activity = .idle ∧ m'.started = false ∧ m'.now = m.now ∧
      m'.due = m.now + h.startupRetryMs := by
  have hretry : m.startupRetry = h.startupRetryMs := (Prod.mk.inj diary.delays_eq).2
  obtain ⟨directors, record, hround⟩ := m.proceed_refusing
  have hend : m.proceed refusing [] = { m with
      backends := directors, record, activity := .idle, due := m.now + h.startupRetryMs } := by
    rw [hround, endRound, ← hretry]
    simp [hstarted]
  have failed := diary.begin (.startup refusing hidle hstarted hdue)
  rw [hend] at failed
  exact ⟨_, failed, rfl, hstarted, rfl, rfl⟩

/-- A startup round in which nobody is healthy, with the one before exactly the delay earlier. -/
theorem exists_startup_rounds (h : HealthCheckConfig) (probe : Probe) (backends : List String) :
    ∃ m, Diary h probe backends
      [⟨.startup, h.startupRetryMs, some h.startupRetryMs⟩, ⟨.startup, 0, some 0⟩] m := by
  obtain ⟨m, failed, hidle, hstarted, hnow, hdue⟩ :=
    (@Diary.start h probe backends false 16).fail rfl rfl (Nat.le_refl 0)
  have hlater : m.now + h.startupRetryMs = h.startupRetryMs := by
    rw [hnow]
    exact Nat.zero_add _
  obtain ⟨m', again, -⟩ := (failed.meet (.advance h.startupRetryMs)).fail hidle hstarted
    (Nat.le_of_eq (hdue.trans (congrArg (· + h.startupRetryMs) hnow.symm)))
  exact ⟨m', by simpa only [advance, hlater, ofConfig] using again⟩

end Monitor

namespace Config

/-- Whether, in every run under a configuration, there is a moment between two rounds of a kind
that follow each other. -/
def Rests (c : Config) (probe : Probe) (cause : Monitor.Cause) : Prop :=
  ∀ {laps : List Lap} {m : Monitor}, Diary c.healthCheck probe c.backends laps m →
    (laps.filter fun l => l.cause = cause).IsChain Lap.Apart

/-- There is one between startup rounds just if their delay is positive. -/
theorem rests_startup_iff (c : Config) (probe : Probe) :
    c.Rests probe .startup ↔ 0 < c.healthCheck.startupRetryMs := by
  refine ⟨fun h => ?_, fun hpos _ _ diary => diary.paced.startups_apart hpos⟩
  obtain ⟨m, diary⟩ := Monitor.exists_startup_rounds c.healthCheck probe c.backends
  simpa [Lap.Apart] using h diary

/-- **No accepted configuration makes ticks or dials spin.**  Let the checks accept a configuration.

* Rounds follow each other as its delays say, and the interval between ticks is longer than
  the slack.
* There is a moment between any two startup rounds of every run just if their delay is positive.
* Dials of each session follow each other as its delay says too, and there are none unless that
  is positive. -/
theorem retries_paced {c : Config} (hvalid : c.isValid = true) :
    (∀ {probe : Probe} {laps : List Lap} {m : Monitor}, Diary c.healthCheck probe c.backends laps m →
      Lap.Measured c.healthCheck.startupRetryMs (1000 * c.healthCheck.intervalSecs) laps) ∧
    tickSlack < 1000 * c.healthCheck.intervalSecs ∧
    (∀ probe : Probe, c.Rests probe .startup ↔ 0 < c.healthCheck.startupRetryMs) ∧
    ∀ {past : List Tenure}, Tenure.History (.ofConfig c) c.scheduler.maxForwarders past →
      ∀ n, Dial.Measured c.tunnel.retryIntervalMs (Tenure.dials n past) ∧
        (Tenure.dials n past ≠ [] → 0 < c.tunnel.retryIntervalMs) := by
  have haccepted := c.isValid_iff.1 hvalid
  have hinterval : tickSlack < 1000 * c.healthCheck.intervalSecs := by
    have := haccepted.interval
    unfold tickSlack
    omega
  refine ⟨fun diary => diary.paced.measured (by omega), hinterval, c.rests_startup_iff,
    fun history n => ?_⟩
  cases history with
  | start => exact ⟨Dial.Paced.measured .nil, fun h => absurd rfl h⟩
  | step history h =>
      have hhistory := history.step h
      refine ⟨(hhistory.dials_fit n).2.measured, fun hdials => ?_⟩
      have hcount : c.tunnel.count ≠ 0 := fun hnone => hdials (hhistory.dials_eq_nil hnone n)
      exact (haccepted.tunnels (Nat.pos_of_ne_zero hcount)).retryInterval

/-- One listener and one backend, with a tunnel, and probes that may take two intervals. -/
def strained : Config where
  listen := ["tcp://127.0.0.1:3306"]
  backends := ["a"]
  healthCheck := { service := .http, intervalSecs := 1, timeoutMs := 2000 }
  scheduler := { shuffle := false }
  tunnel := { count := 1 }

/-- One listener and one backend, and no delay between startup rounds. -/
def hasty : Config where
  listen := ["tcp://127.0.0.1:3306"]
  backends := ["a"]
  healthCheck := { startupRetryMs := 0 }

/-- A probe that succeeds, and one that is not answered in time. -/
theorem exists_rounds : ∃ laps m, Diary strained.healthCheck (.http "/") strained.backends laps m ∧
    laps = [⟨.tick, 3000, none⟩, ⟨.tick, 1000, some 3000⟩, ⟨.startup, 0, some 0⟩] := by
  let healthy : Answering := fun _ => some (.ok {})
  let silent : Answering := fun _ => none
  have begun := @Diary.start strained.healthCheck (.http "/") strained.backends false 16
  have found := begun.begin (.startup healthy rfl rfl (by decide))
  have started := found.act (by decide +kernel) (.send rfl rfl (by decide +kernel))
  have probing := (started.meet (.advance 1000)).begin
    (.tick silent (by decide +kernel) (by decide +kernel) (by decide +kernel))
  have late := (probing.meet (.advance 2000)).act (by decide +kernel)
    (.answer silent [(.director 0 "a", .error (.timeout 2000))] rfl)
  have again := late.begin (.tick silent (by decide +kernel) (by decide +kernel) (by decide +kernel))
  exact ⟨_, _, again, by decide +kernel⟩

/-- Two dials of one session, the first of them refused. -/
theorem exists_dials : ∃ past,
    Tenure.History (.ofConfig strained) strained.scheduler.maxForwarders past ∧
      Tenure.dials 0 past = [⟨1000, none⟩, ⟨0, some 0⟩] := by
  have begun := @Tenure.History.start (.ofConfig strained) strained.scheduler.maxForwarders
  -- a snapshot makes an instance, and a session is asked for
  have posted := begun.step (.step (.work (.post (.ofHealthy ["a"]))))
  have opened := posted.step (.step
    (.receive rfl rfl (.snapshot rfl) (.snapshot _ (by decide +kernel) .rfl .rfl (.inl rfl))))
  have arrived := (opened.next (by decide +kernel)).next (by decide +kernel)
  have ready := (arrived.next (by decide +kernel)).next (by decide +kernel)
  -- its first dial is refused, and the delay passes
  have looked := (ready.session 0 0 (by decide +kernel)).session 0 0 (by decide +kernel)
  have dialing := looked.session 0 0 (by decide +kernel)
  have refused := dialing.step (.step (.work (@Work.undialed _ 0 ⟨0, 0, 0, .dialing 0⟩ 0
    (by decide +kernel) rfl)))
  have later := refused.step (.step (.work (@Work.tick _ 1000 0 (by decide +kernel)
    (by decide +kernel))))
  have relooked := ((later.session 0 0 (by decide +kernel)).session 0 0 (by decide +kernel)).session 0 0
    (by decide +kernel)
  have again := relooked.session 0 0 (by decide +kernel)
  exact ⟨_, again, by decide +kernel⟩

/-- Rounds and dials of one configuration, with the delays that they leave. -/
theorem retries_paced_of_strained : strained.isValid = true ∧
    (∃ laps m, Diary strained.healthCheck (.http "/") strained.backends laps m ∧
      laps.length = 3 ∧ Lap.Measured 1000 1000 laps) ∧
    strained.Rests (.http "/") .startup ∧
    ∃ past, Tenure.History (.ofConfig strained) strained.scheduler.maxForwarders past ∧
      (Tenure.dials 0 past).length = 2 ∧ Dial.Measured 1000 (Tenure.dials 0 past) ∧
        0 < strained.tunnel.retryIntervalMs := by
  have hvalid : strained.isValid = true := by decide +kernel
  obtain ⟨hrounds, -, hstartup, hdials⟩ := retries_paced hvalid
  obtain ⟨laps, m, diary, hlaps⟩ := exists_rounds
  obtain ⟨past, history, htwo⟩ := exists_dials
  obtain ⟨hmeasured, hpos⟩ := hdials history 0
  refine ⟨hvalid, ⟨laps, m, diary, by rw [hlaps]; rfl, hrounds diary⟩,
    (hstartup _).2 (by decide), past, history, ?_, hmeasured, hpos (by simp [htwo])⟩
  rw [htwo]
  rfl

/-- **Rounds may follow each other at once** though the checks accept the configuration: startup
rounds without a delay, and a tick after a round that has taken longer than the interval. -/
theorem rounds_at_once :
    (∃ c : Config, c.isValid = true ∧ ¬ c.Rests .tcp .startup) ∧
    ∃ c : Config, c.isValid = true ∧ ¬ c.Rests (.http "/") .tick := by
  refine ⟨⟨hasty, by decide +kernel, fun h => ?_⟩, strained, by decide +kernel, fun h => ?_⟩
  · rw [rests_startup_iff] at h
    exact absurd h (by decide)
  · obtain ⟨laps, m, diary, rfl⟩ := exists_rounds
    simpa [Lap.Apart] using h diary

end Config

end StreamBalancer
