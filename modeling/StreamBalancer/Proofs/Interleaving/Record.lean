import StreamBalancer.Proofs.Interleaving.Roster
import StreamBalancer.Proofs.Metrics

/-!
# StreamBalancer.Proofs.Interleaving.Record

Who records what becomes of requests, and who touches which series.

1. A task gives a request up, or touches a series of one kind, or does neither
   (`Task.touches`, `kept_perform`).
2. Helpers touch what is counted of tunnels and bytes (`Work.kept_eq`).
3. So only a refusal adds to the requests given up, and only a refusal and the report of a
   forward touch the counters of requests; the other tasks (`record_perform`) and the
   helpers (`Work.record_eq`) leave them alone.
-/

namespace StreamBalancer

/-- Whether a series counts requests. -/
def Series.isRequest : Series → Bool
  | requests _ | rescheduled | rejected => true
  | _ => false

/-- Whether a series shows the load of an instance. -/
def Series.isOngoing : Series → Bool
  | ongoing _ => true
  | _ => false

/-- Whether a series counts tunnels or bytes. -/
def Series.isTraffic : Series → Bool
  | sessions _ | bytes _ => true
  | _ => false

/-- Whether a series counts dials. -/
def Series.isDial : Series → Bool
  | sessions .established | sessions .failed => true
  | _ => false

/-- Whether a series shows the state of the whole. -/
def Series.isTotal : Series → Bool
  | backends | poolSize | pending => true
  | _ => false

namespace Metrics

/-- The counters of requests. -/
def requestCounts (m : Metrics) (x : Series) : Nat := if x.isRequest then m.value x else 0

/-- The values of some series. -/
def among (p : Series → Bool) (m : Metrics) (x : Series) : Nat := if p x then m.value x else 0

variable {p : Series → Bool}

theorem among_of_value {m m' : Metrics} {x : Series} {n : Nat} (hx : p x = false)
    (h : ∀ y, m'.value y = if y = x then n else m.value y) : m'.among p = m.among p := by
  funext y
  rw [among, among]
  cases hy : p y with
  | false => rfl
  | true =>
      have hne : y ≠ x := by
        rintro rfl
        rw [hx] at hy
        contradiction
      rw [if_pos rfl, if_pos rfl, h, if_neg hne]

/-- Other series may be touched. -/
theorem among_add (m : Metrics) {x : Series} (n : Nat) (hx : p x = false) :
    (m.add x n).among p = m.among p := by
  refine among_of_value (n := m.value x + n) hx fun y => ?_
  rw [value_add]
  split
  · next h => rw [h]
  · rfl

theorem among_set (m : Metrics) {x : Series} (n : Nat) (hx : p x = false) :
    (m.set x n).among p = m.among p :=
  among_of_value hx fun y => m.value_set x y n

end Metrics

namespace Scheduler

/-- The requests given up and the counters of requests. -/
def record (s : Scheduler) : List Nat × (Series → Nat) := (s.dropped, s.fleet.metrics.requestCounts)

/-- The requests given up and the values of some series. -/
def kept (s : Scheduler) (p : Series → Bool) : List Nat × (Series → Nat) :=
  (s.dropped, s.fleet.metrics.among p)

/-- Whether a task may record what became of a request. -/
def Task.isRecording : Task → Bool
  | .dispatch _ | .finished _ => true
  | _ => false

/-- Whether a task may touch a series. -/
def Task.touches (x : Series) : Task → Bool
  | .dispatch _ => x.isRequest
  | .finished _ => x.isRequest || x.isOngoing
  | .start _ _ | .remove _ => x.isOngoing
  | .weigh _ _ _ => x == .sessions .replaced
  | .publish => x.isTotal
  | _ => false

/-- Dials are counted by others. -/
theorem Task.touches_of_isDial (task : Task) {x : Series} (hx : x.isDial = true) :
    task.touches x = false := by
  obtain rfl | rfl : x = .sessions .established ∨ x = .sessions .failed := by
    unfold Series.isDial at hx
    split at hx
    · exact .inl rfl
    · exact .inr rfl
    · contradiction
  all_goals cases task <;> rfl

section Kept

variable {p : Series → Bool}

/-- A kind of series that a task leaves alone does not hold those that it touches. -/
theorem Task.not_among {task : Task} (h : ∀ x, p x = true → task.touches x = false) {x : Series}
    (hx : task.touches x = true) : p x = false := by
  rw [← Bool.not_eq_true]
  intro hp
  rw [h x hp] at hx
  contradiction

theorem kept_setGauge (s : Scheduler) {x : Series} (n : Nat) (hx : p x = false) :
    ({ s with fleet := s.fleet.setGauge x n }).kept p = s.kept p :=
  congrArg (s.dropped, ·) (Metrics.among_set _ n hx)

theorem kept_count (s : Scheduler) {x : Series} (hx : p x = false) :
    (s.count x).kept p = s.kept p :=
  congrArg (s.dropped, ·) (Metrics.among_add _ 1 hx)

/-- A task gives no request up unless it is a dispatch, and leaves other series alone. -/
theorem kept_perform (s : Scheduler) {task : Task} (h : ∀ x, p x = true → task.touches x = false)
    (hdispatch : ∀ r, task ≠ .dispatch r) : (s.perform task).1.kept p = s.kept p := by
  cases task with
  | dispatch r => exact absurd rfl (hdispatch r)
  | finished f =>
      obtain ⟨b, outcome⟩ := f
      let t := (s.modifyBackend b Backend.finish).count (.requests outcome.verdict)
      have ht : (t.showOngoing b).kept p = s.kept p :=
        (t.kept_setGauge _ (Task.not_among h rfl)).trans
          ((s.modifyBackend b Backend.finish).kept_count (Task.not_among h rfl))
      cases outcome with
      | completed | failed => exact ht
      | dialFailed r =>
          exact (Scheduler.kept_count ((t.showOngoing b).withdraw b)
            (Task.not_among h (x := .rescheduled) rfl)).trans ht
  | inspect | close => rfl
  | start r b => exact s.kept_setGauge _ (Task.not_among h rfl)
  | publish =>
      let t := { s with fleet := s.fleet.setGauge .backends s.trackedCount }
      let u := { t with fleet := t.fleet.setGauge .poolSize s.pool.size }
      calc s.publishGauges.kept p
          = u.kept p := u.kept_setGauge _ (Task.not_among h rfl)
        _ = t.kept p := t.kept_setGauge _ (Task.not_among h rfl)
        _ = s.kept p := s.kept_setGauge _ (Task.not_among h rfl)
  | arrive a =>
      obtain ⟨-, heq⟩ | ⟨-, -, heq⟩ | ⟨-, -, heq⟩ := perform_arrive_cases s a <;> rw [heq] <;> rfl
  | revive a =>
      simp only [perform, revive]
      split
      · split <;> rfl
      · rfl
  | remove a =>
      cases hb : s.tracked? a with
      | none => rw [perform_remove_none s hb]
      | some b =>
          simp only [perform, hb]
          exact (s.withdraw b).kept_setGauge (x := .ongoing a) 0 (Task.not_among h rfl)
  | request | failure | connected =>
      simp only [perform]
      split <;> rfl
  | check b =>
      simp only [perform]
      split
      · rfl
      · split <;> rfl
  | weigh b slot t =>
      simp only [perform]
      split
      · obtain ⟨-, hmark⟩ | ⟨x, -, -, hmark⟩ | ⟨x, -, -, hmark⟩ := s.fleet.markReplacing_cases b slot
        · rw [hmark]
        · rw [hmark]
        · rw [hmark]
          exact s.kept_count (x := .sessions .replaced) (Task.not_among h rfl)
      · rfl
  | mark b slot =>
      simp only [perform]
      obtain ⟨-, hmark⟩ | ⟨x, -, -, hmark⟩ | ⟨x, -, -, hmark⟩ := s.fleet.markReplacing_cases b slot
      · rw [hmark]
      · rw [hmark]
      · rw [hmark]
        rfl
  | empty b slot =>
      simp only [perform]
      split
      · next t _ =>
        obtain ⟨-, hevict⟩ | ⟨-, hevict⟩ := s.fleet.evict_cases b slot t
        · rw [hevict]
          rfl
        · rw [hevict]
      · rfl
  | handover v =>
      simp only [perform]
      split
      · rfl
      · split <;> rfl
  | drain =>
      simp only [perform]
      split
      · rfl
      · split <;> rfl

/-- Series that a task does not touch keep their values, also at a dispatch. -/
theorem among_perform (s : Scheduler) {task : Task}
    (h : ∀ x, p x = true → task.touches x = false) :
    (s.perform task).1.fleet.metrics.among p = s.fleet.metrics.among p := by
  by_cases hdispatch : ∃ r, task = .dispatch r
  · obtain ⟨r, rfl⟩ := hdispatch
    simp only [perform]
    split
    · rfl
    · split
      · exact Metrics.among_add _ (x := .rejected) 1 (Task.not_among h rfl)
      · rfl
  · exact congrArg Prod.snd (s.kept_perform h fun r hr => hdispatch ⟨r, hr⟩)

end Kept

theorem record_perform (s : Scheduler) {task : Task} (h : task.isRecording = false) :
    (s.perform task).1.record = s.record := by
  refine kept_perform (p := Series.isRequest) s (fun x hx => ?_) (fun r hr => ?_)
  · cases task <;> cases x <;> first | rfl | contradiction
  · rw [hr] at h
    contradiction

/-! ## Helpers -/

end Scheduler

section Kept

variable {p : Series → Bool}

/-- A search counts evictions of tunnels at most. -/
theorem Opening.among_step (hp : p (.sessions .evicted) = false)
    {reach : ListenAddress → Bool} {f g : Fleet} {o o' : Opening}
    (h : o.step? reach f = some (o', g)) : g.metrics.among p = f.metrics.among p := by
  obtain ⟨b, start, phase⟩ := o
  cases phase with
  | seeking visited | dialing | evicted visit =>
      obtain ⟨-, rfl⟩ := Prod.mk.inj (Option.some.inj h)
      rfl
  | reporting visit =>
      obtain ⟨-, rfl⟩ := Prod.mk.inj (Option.some.inj h)
      exact Metrics.among_add f.metrics (x := .sessions .evicted) 1 hp
  | asking visit held =>
      simp only [step?] at h
      split at h
      · split at h
        · contradiction
        · obtain ⟨-, rfl⟩ := Prod.mk.inj (Option.some.inj h)
          rfl
      · obtain ⟨-, rfl⟩ := Prod.mk.inj (Option.some.inj h)
        rfl
      · next e t _ =>
        obtain rfl := congrArg Prod.snd (Option.some.inj h)
        obtain ⟨hfleet, -⟩ | ⟨-, -, hfleet⟩ := failed_cases
          (f.modifyTunnel visit.tunnel fun _ => t) ⟨b, start, .asking visit held⟩ visit e
        · rw [hfleet]
          rfl
        · rw [hfleet]
          rfl
  | found route => contradiction
  | unreachable => contradiction

namespace Scheduler

theorem kept_stepSession (hp : p (.sessions .failed) = false) {s t : Scheduler}
    {draw n : Nat} (h : s.stepSession? draw n = some t) : t.kept p = s.kept p := by
  have hfailed : (s.dialFailed n draw).kept p = s.kept p := s.kept_count (x := .sessions .failed) hp
  unfold stepSession? at h
  split at h
  · contradiction
  · split at h
    · obtain rfl := Option.some.inj h
      unfold handOver
      split <;> rfl
    -- it looks, looks again and dials
    · split at h <;> obtain rfl := Option.some.inj h <;> rfl
    · split at h <;> obtain rfl := Option.some.inj h <;> rfl
    · split at h <;> obtain rfl := Option.some.inj h <;> rfl
    · split at h
      · obtain rfl := Option.some.inj h
        rfl
      · split at h
        · obtain rfl := Option.some.inj h
          exact hfailed
        · contradiction
    · split at h
      · obtain rfl := Option.some.inj h
        rfl
      · split at h
        · obtain rfl := Option.some.inj h
          rfl
        · contradiction

/-- A forward counts evictions of tunnels at most, on its own. -/
theorem among_stepForward (hp : p (.sessions .evicted) = false) {s t : Scheduler}
    {reach : ListenAddress → Bool} {r : Nat} (h : s.stepForward? reach r = some t) :
    t.fleet.metrics.among p = s.fleet.metrics.among p := by
  unfold stepForward? at h
  split at h
  · contradiction
  · split at h
    · obtain rfl := Option.some.inj h
      rfl
    · split at h
      · obtain rfl := Option.some.inj h
        rfl
      · obtain rfl := Option.some.inj h
        rfl
      · obtain ⟨⟨search, g⟩, hstep, rfl⟩ := Option.map_eq_some_iff.1 h
        exact Opening.among_step hp hstep
    · contradiction
    · obtain rfl := Option.some.inj h
      rfl
    · obtain rfl := Option.some.inj h
      exact report_keeps (fun s => s.fleet.metrics.among p) (fun _ _ _ _ => rfl) _ _

/-- While the scheduler is there, a forward gives no request up. -/
theorem kept_stepForward (hp : p (.sessions .evicted) = false) {s t : Scheduler}
    {reach : ListenAddress → Bool} {r : Nat} (hstopped : s.stopped = false)
    (h : s.stepForward? reach r = some t) : t.kept p = s.kept p := by
  have hdropped : t.dropped = s.dropped := by
    obtain ⟨f, -, hmoves⟩ := stepForward?_cases h
    cases hmoves with
    | advances | releases => rfl
    | reports =>
        rw [report, if_neg (by simp [removeForward, hstopped])]
        rfl
  exact Prod.ext hdropped (among_stepForward hp h)

/-- The end of a splice counts bytes. -/
theorem among_endSplice (hreceived : p (.bytes .received) = false) (hsent : p (.bytes .sent) = false)
    (s : Scheduler) (r : Nat) (moved : Option (Nat × Nat)) :
    (s.endSplice r moved).fleet.metrics.among p = s.fleet.metrics.among p := by
  unfold endSplice
  split
  · rfl
  · split
    · exact (Metrics.among_add _ (x := .bytes .sent) _ hsent).trans
        (Metrics.among_add _ (x := .bytes .received) _ hreceived)
    · rfl

/-- Nobody but the scheduler gives requests up while it is there, or touches a series that
counts neither tunnels nor bytes. -/
theorem Work.kept_eq (hp : ∀ x, x.isTraffic = true → p x = false) {s t : Scheduler}
    (hstopped : s.stopped = false) (h : s.Work t) : t.kept p = s.kept p := by
  cases h with
  | post | retune | tick => rfl
  | session h => exact kept_stepSession (hp _ rfl) h
  | dialed tunnel =>
      exact congrArg (s.dropped, ·)
        (Metrics.among_add s.fleet.metrics (x := .sessions .established) 1 (hp _ rfl))
  | undialed => exact s.kept_count (x := .sessions .failed) (hp _ rfl)
  | forward reach h => exact kept_stepForward (hp _ rfl) hstopped h
  | @spliced r _ _ moved h =>
      obtain ⟨g, outcome, heq, -⟩ := endSplice_eq h moved
      have hdropped : (s.endSplice r moved).dropped = s.dropped := by
        rw [heq]
        rfl
      exact Prod.ext hdropped (among_endSplice (hp _ rfl) (hp _ rfl) s r moved)

/-- Nobody but the scheduler records what becomes of requests. -/
theorem Work.record_eq {s t : Scheduler} (hstopped : s.stopped = false) (h : s.Work t) :
    t.record = s.record :=
  h.kept_eq (p := Series.isRequest) (by intro x hx; cases x <;> first | rfl | contradiction) hstopped

end Scheduler

end Kept

end StreamBalancer
