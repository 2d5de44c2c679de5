import StreamBalancer.Proofs.Interleaving.Sound
import StreamBalancer.Proofs.Keyed

/-!
# StreamBalancer.Proofs.Interleaving.Requests

Requests are told apart at every moment of every history: a request that arrived is
in one place at most, so no two forwards are for one request (`Run.apart`).

1. A task takes a request from one place to another (`copies_perform`), and a
   forward hands back its own request only (`HandsBackOwn`).
2. All other tasks leave requests and forwards alone (`requests_perform`).
3. A forward was there before, is started, takes a step, or its splice has ended
   (`World.Step.forward_cases`).
-/

namespace StreamBalancer

namespace Scheduler

/-! ## Tasks -/

/-- The request that a task is about. -/
def Task.request? : Task → Option Nat
  | .request r | .dispatch r | .start r _ => some r
  | .finished f => f.outcome.request?
  | _ => none

/-- The instance whose forward a task is about to start, or has heard of. -/
def Task.owes? : Task → Option Nat
  | .start _ b => some b
  | .finished f => some f.backend
  | _ => none

/-- In how many places a request is, the tasks at hand apart. -/
def copies (s : Scheduler) (r : Nat) : Nat :=
  s.jobs.count r + s.pending.count r + s.forwards.countP (fun f => f.request == r) +
    s.outcomes.countP fun f => f.outcome.request? == some r

/-- In how many tasks a request is. -/
def atHand (tasks : List Task) (r : Nat) : Nat := tasks.countP fun x => x.request? == some r

/-- A forward that found no route hands its own request back. -/
def HandsBackOwn (s : Scheduler) : Prop :=
  ∀ f ∈ s.forwards, ∀ r, f.stage = .ended (.dialFailed r) ∨ f.stage = .reporting (.dialFailed r) →
    r = f.request

/-- Whether a task may move a request. -/
def Task.movesRequest : Task → Bool
  | .request _ | .dispatch _ | .start _ _ | .finished _ | .drain => true
  | _ => false

/-- What a scheduler holds of requests and forwards. -/
def requests (s : Scheduler) : List Nat × List Nat × List Forward × List Finished × Nat :=
  (s.jobs, s.pending, s.forwards, s.outcomes, s.inFlight)

theorem copies_congr {s t : Scheduler} (h : t.requests = s.requests) (r : Nat) :
    t.copies r = s.copies r := by
  simp only [requests, Prod.mk.injEq] at h
  obtain ⟨hjobs, hpending, hforwards, houtcomes, -⟩ := h
  rw [copies, copies, hjobs, hpending, hforwards, houtcomes]

theorem requests_perform (s : Scheduler) {task : Task} (h : task.movesRequest = false) :
    (s.perform task).1.requests = s.requests ∧
      ∀ x ∈ (s.perform task).2, x.request? = none ∧ x.owes? = none := by
  have hnil : ∀ x ∈ ([] : List Task), x.request? = none ∧ x.owes? = none :=
    fun _ h => absurd h List.not_mem_nil
  cases task with
  | request | dispatch | start | finished | drain => contradiction
  | close | publish => exact ⟨rfl, hnil⟩
  | inspect b slot =>
      refine ⟨rfl, fun x hx => ?_⟩
      obtain ⟨t, -, rfl⟩ := Option.map_eq_some_iff.1 (Option.mem_toList.1 hx)
      exact ⟨rfl, rfl⟩
  | check b =>
      simp only [perform]
      split
      · exact ⟨rfl, hnil⟩
      · split
        · refine ⟨rfl, fun x hx => ?_⟩
          obtain ⟨slot, -, rfl⟩ := List.mem_map.1 hx
          exact ⟨rfl, rfl⟩
        · exact ⟨rfl, hnil⟩
  | weigh b slot t =>
      simp only [perform]
      split
      · split <;> exact ⟨rfl, hnil⟩
      · exact ⟨rfl, hnil⟩
  | remove a =>
      cases hb : s.tracked? a with
      | none =>
          rw [perform_remove_none s hb]
          exact ⟨rfl, hnil⟩
      | some b =>
          simp only [perform, hb]
          refine ⟨rfl, fun x hx => ?_⟩
          obtain ⟨slot, -, rfl⟩ := List.mem_map.1 hx
          exact ⟨rfl, rfl⟩
  | revive a =>
      simp only [perform, revive]
      split
      · split <;> exact ⟨rfl, hnil⟩
      · exact ⟨rfl, hnil⟩
  | arrive a =>
      obtain ⟨-, heq⟩ | ⟨-, -, heq⟩ | ⟨-, -, heq⟩ := perform_arrive_cases s a <;>
        rw [heq] <;> exact ⟨rfl, hnil⟩
  | empty b slot =>
      simp only [perform]
      split
      · exact ⟨rfl, by simp [Task.request?, Task.owes?]⟩
      · exact ⟨rfl, hnil⟩
  | failure f =>
      simp only [perform]
      split
      · exact ⟨rfl, hnil⟩
      · exact ⟨rfl, by simp [Task.request?, Task.owes?]⟩
  | mark b slot =>
      simp only [perform]
      split <;> exact ⟨rfl, hnil⟩
  | handover v =>
      simp only [perform]
      split
      · exact ⟨rfl, by simp [Task.request?, Task.owes?]⟩
      · split
        · refine ⟨rfl, fun x hx => ?_⟩
          obtain hx | hx := List.mem_append.1 hx
          · obtain ⟨t, -, rfl⟩ := List.mem_map.1 hx
            exact ⟨rfl, rfl⟩
          · rw [List.mem_singleton.1 hx]
            exact ⟨rfl, rfl⟩
        · exact ⟨rfl, by simp [Task.request?, Task.owes?]⟩
  | connected b =>
      simp only [perform]
      split
      · exact ⟨rfl, by simp [Task.request?, Task.owes?]⟩
      · exact ⟨rfl, hnil⟩

/-- Tasks take no requests and no reports from their queues. -/
theorem unread_perform (s : Scheduler) (x : Task) :
    (s.perform x).1.jobs = s.jobs ∧ (s.perform x).1.outcomes = s.outcomes :=
  ⟨perform_keeps jobs (fun _ _ _ _ _ _ _ _ _ _ _ => rfl) s (.inr fun _ _ _ => rfl),
    perform_keeps outcomes (fun _ _ _ _ _ _ _ _ _ _ _ => rfl) s (.inr fun _ _ _ => rfl)⟩

theorem atHand_eq_zero {tasks : List Task} (h : ∀ x ∈ tasks, x.request? = none) (r : Nat) :
    atHand tasks r = 0 := by
  rw [atHand, List.countP_eq_zero]
  intro x hx
  rw [h x hx]
  simp

/-- A task puts a request in no place but the one that it takes it from. -/
theorem copies_perform {s : Scheduler} {most : Nat} (h : s.roster.Sound most) (task : Task)
    (r : Nat) :
    (s.perform task).1.copies r + atHand (s.perform task).2 r ≤ s.copies r + atHand [task] r := by
  by_cases hmoves : task.movesRequest = false
  · obtain ⟨hrequests, htasks⟩ := requests_perform s hmoves
    rw [copies_congr hrequests, atHand_eq_zero fun x hx => (htasks x hx).1]
    omega
  cases task with
  | request q =>
      simp only [perform]
      split
      · simp [copies, atHand, Task.request?, List.count_singleton]
        omega
      · simp [copies, atHand, Task.request?]
  | dispatch q =>
      obtain heq | ⟨b, pool, -, -, -, ⟨-, heq⟩ | ⟨-, heq⟩⟩ := perform_dispatch_cases h q
      · rw [heq]
        simp [copies, atHand, Task.request?, List.count_singleton]
        omega
      · rw [heq]
        change s.copies r + 0 ≤ _
        omega
      · rw [heq]
        simp [copies, atHand, Task.request?, modifyBackend, List.countP_cons]
  | start q b =>
      simp [perform, copies, atHand, Task.request?, startForward, showOngoing, setOngoingGauge,
        List.countP_cons]
      omega
  | finished f =>
      obtain ⟨b, outcome⟩ := f
      cases outcome with
      | completed | failed =>
          change s.copies r + 0 ≤ _
          omega
      | dialFailed q =>
          change s.copies r + atHand [.request q] r ≤ _
          simp [atHand, Task.request?, Outcome.request?]
  | drain =>
      simp only [perform]
      split
      · exact Nat.le_add_right _ _
      · next q rest hpending =>
        split
        · exact Nat.le_add_right _ _
        · simp [copies, atHand, Task.request?, hpending, List.countP_cons, List.count_cons]
          omega
  | _ => exact absurd rfl hmoves

/-- A task starts a forward or leaves them all. -/
theorem forwards_perform {s : Scheduler} {most : Nat} (h : s.roster.Sound most) (task : Task) :
    ((s.perform task).1.forwards = s.forwards ∧ (s.perform task).1.inFlight = s.inFlight) ∨
      ∃ r b, task = .start r b ∧
        (s.perform task).1.forwards = s.forwards ++ [{ request := r, backend := b }] ∧
        (s.perform task).1.inFlight = s.inFlight + 1 := by
  by_cases hmoves : task.movesRequest = false
  · have hrequests := (requests_perform s hmoves).1
    simp only [requests, Prod.mk.injEq] at hrequests
    exact .inl ⟨hrequests.2.2.1, hrequests.2.2.2.2⟩
  cases task with
  | start r b => exact .inr ⟨r, b, rfl, rfl, rfl⟩
  | request r =>
      left
      simp only [perform]
      split <;> exact ⟨rfl, rfl⟩
  | dispatch r =>
      left
      obtain heq | ⟨b, pool, -, -, -, ⟨-, heq⟩ | ⟨-, heq⟩⟩ := perform_dispatch_cases h r <;>
        rw [heq] <;> exact ⟨rfl, rfl⟩
  | finished f =>
      left
      obtain ⟨b, outcome⟩ := f
      cases outcome <;> exact ⟨rfl, rfl⟩
  | drain =>
      left
      simp only [perform]
      split
      · exact ⟨rfl, rfl⟩
      · split <;> exact ⟨rfl, rfl⟩
  | _ => exact absurd rfl hmoves

/-! ### Helpers -/

/-- Only the forward of the request is changed. -/
theorem setForward_cases {s : Scheduler} {r : Nat} {stage : Forward.Stage} {g : Forward}
    (h : g ∈ (s.setForward r stage).forwards) :
    (g.request = r ∧ g.stage = stage) ∨ (g.request ≠ r ∧ g ∈ s.forwards) := by
  obtain ⟨f, hf, rfl⟩ := List.mem_map.1 h
  by_cases hr : f.request = r
  · rw [if_pos hr]
    exact .inl ⟨hr, rfl⟩
  · rw [if_neg hr]
    exact .inr ⟨hr, hf⟩

theorem mem_setForward {s : Scheduler} {r : Nat} {stage : Forward.Stage} {g : Forward}
    (h : g ∈ (s.setForward r stage).forwards) :
    g ∈ s.forwards ∨ (g.request = r ∧ g.stage = stage) :=
  (setForward_cases h).elim .inr fun hold => .inl hold.2

theorem copies_setForward (s : Scheduler) (q : Nat) (stage : Forward.Stage) (r : Nat) :
    (s.setForward q stage).copies r = s.copies r := by
  have hrequest : ∀ f : Forward, (if f.request = q then { f with stage } else f).request = f.request := by
    intro f
    split <;> rfl
  simp only [copies, setForward, List.countP_map, Function.comp_def, hrequest]

theorem HandsBackOwn.setForward {s : Scheduler} (h : s.HandsBackOwn) {r : Nat}
    {stage : Forward.Stage}
    (hstage : ∀ q, stage = .ended (.dialFailed q) ∨ stage = .reporting (.dialFailed q) → q = r) :
    (s.setForward r stage).HandsBackOwn := by
  intro g hg q hq
  obtain hold | ⟨hrequest, hnew⟩ := mem_setForward hg
  · exact h g hold q hq
  · rw [hrequest]
    exact hstage q (hnew ▸ hq)

theorem ForwardMoves.handsBackOwn {s t : Scheduler} {f : Forward} (h : s.ForwardMoves f t)
    (hf : f ∈ s.forwards) (hown : s.HandsBackOwn) : t.HandsBackOwn := by
  cases h with
  | advances hold hnew _ =>
      refine HandsBackOwn.setForward hown fun q hq => ?_
      obtain rfl | rfl := hq
      · simpa using hnew rfl
      · simpa using hnew rfl
  | releases hold =>
      refine HandsBackOwn.setForward hown fun q hq => ?_
      obtain hq | hq := hq
      · contradiction
      · exact hown f hf q (.inl (hold.trans (congrArg _ (Forward.Stage.reporting.inj hq))))
  | reports hold =>
      intro g hg
      rw [report_keeps forwards fun _ _ _ _ => rfl] at hg
      exact hown g (List.mem_filter.1 hg).1

/-- A forward that is over no longer holds its request. -/
theorem copies_removeForward {s : Scheduler} {f : Forward} (hf : f ∈ s.forwards) (r : Nat) :
    (s.removeForward f.request).copies r + (if f.request = r then 1 else 0) ≤ s.copies r := by
  simp only [copies, removeForward, List.countP_filter]
  split
  · next hr =>
    have hpos : 0 < s.forwards.countP fun g => g.request == r :=
      List.countP_pos_iff.2 ⟨f, hf, by simpa using hr⟩
    have hnone : s.forwards.countP (fun g => g.request == r && decide (g.request ≠ f.request)) = 0 := by
      simp [List.countP_eq_zero, hr]
    omega
  · have hle : s.forwards.countP (fun g => g.request == r && decide (g.request ≠ f.request)) ≤
        s.forwards.countP fun g => g.request == r := by
      apply List.countP_mono_left
      exact fun g _ hg => (Bool.and_eq_true_iff.1 hg).1
    omega

theorem ForwardMoves.copies_le {s t : Scheduler} {f : Forward} (h : s.ForwardMoves f t)
    (hf : f ∈ s.forwards) (hown : s.HandsBackOwn) (r : Nat) : t.copies r ≤ s.copies r := by
  cases h with
  | advances => exact Nat.le_of_eq (copies_setForward _ _ _ r)
  | releases => exact Nat.le_of_eq (copies_setForward _ _ _ r)
  | @reports outcome hold =>
      have hremove := copies_removeForward hf r
      have hback : ∀ q, outcome = .dialFailed q → q = f.request :=
        fun q hq => hown f hf q (.inr (hq ▸ hold))
      unfold report
      split
      · split
        · change (s.removeForward f.request).copies r ≤ _
          omega
        · omega
      · have houtcome : (if outcome.request? == some r then 1 else 0) ≤
            if f.request = r then 1 else 0 := by
          cases outcome with
          | completed | failed => exact Nat.zero_le _
          | dialFailed q =>
              rw [hback q rfl]
              simp [Outcome.request?]
        refine Nat.le_trans ?_ hremove
        simp only [copies, List.countP_append, List.countP_singleton]
        omega

theorem Work.apart {s t : Scheduler} (h : s.Work t) (hown : s.HandsBackOwn) :
    t.HandsBackOwn ∧ ∀ r, t.copies r ≤ s.copies r := by
  have hsame : ∀ t : Scheduler, t.requests = s.requests →
      t.HandsBackOwn ∧ ∀ r, t.copies r ≤ s.copies r := by
    intro t ht
    have hforwards : t.forwards = s.forwards := by
      simp only [requests, Prod.mk.injEq] at ht
      exact ht.2.2.1
    refine ⟨?_, fun r => Nat.le_of_eq (copies_congr ht r)⟩
    rw [HandsBackOwn, hforwards]
    exact hown
  cases h with
  | post | retune | tick | dialed | undialed => exact hsame _ rfl
  | session h =>
      obtain ⟨x, -, hmoves⟩ := stepSession?_cases h
      apply hsame
      cases hmoves with
      | hands =>
          unfold handOver
          split <;> rfl
      | ends | goes => rfl
  | forward reach h =>
      obtain ⟨f, hfind, hmoves⟩ := stepForward?_cases h
      have hf : f ∈ s.forwards := List.mem_of_find?_eq_some hfind
      exact ⟨hmoves.handsBackOwn hf hown, hmoves.copies_le hf hown⟩
  | @spliced r _ _ moved h =>
      obtain ⟨g, outcome, heq, houtcome, -⟩ := endSplice_eq h moved
      rw [heq]
      refine ⟨HandsBackOwn.setForward hown fun q hq => ?_,
        fun q => Nat.le_of_eq (copies_setForward _ _ _ q)⟩
      obtain hq | hq := hq
      · rw [Forward.Stage.ended.inj hq] at houtcome
        contradiction
      · contradiction

/-! ## Messages -/

theorem Receives.copies_eq {s t : Scheduler} {e : Event} {tasks : List Task} (h : s.Receives e t)
    (hopens : t.Opens e tasks) (r : Nat) :
    t.copies r + atHand (tasks ++ [.publish]) r = s.copies r := by
  cases h with
  | request h =>
      cases hopens
      simp [copies, atHand, h, Task.request?, List.count_cons, List.countP_cons]
      omega
  | finished h =>
      cases hopens
      simp [copies, atHand, h, Task.request?, List.countP_cons]
      omega
  | snapshot h =>
      have hnone : atHand (tasks ++ [.publish]) r = 0 := by
        cases hopens with
        | ignored => rfl
        | snapshot =>
            apply atHand_eq_zero
            intro x hx
            obtain ⟨a, rfl⟩ | ⟨a, rfl⟩ | ⟨a, -, rfl⟩ | rfl | rfl := World.Sound.mem_sweep hx <;> rfl
      rw [hnone]
      rfl
  | failure h =>
      cases hopens
      rfl
  | handover h =>
      cases hopens
      rfl

end Scheduler

namespace World

open Scheduler

/-- A forward was there before, is started, takes a step, or its splice has ended. -/
theorem Step.forward_cases {w w' : World} (hsound : w.Sound) (step : w.Step w') {g : Forward}
    (hg : g ∈ w'.scheduler.forwards) :
    g ∈ w.scheduler.forwards ∨
      ((∃ rest, w.tasks = .start g.request g.backend :: rest) ∧ g.stage = .starting) ∨
      (∃ reach, w.scheduler.stepForward? reach g.request = some w'.scheduler) ∨
      ∃ outcome, outcome.request? = none ∧ g.stage = .ended outcome := by
  have hsame : w'.scheduler.forwards = w.scheduler.forwards → g ∈ w.scheduler.forwards :=
    fun h => h ▸ hg
  cases step with
  | @perform task rest htasks =>
      obtain ⟨hforwards, -⟩ | ⟨r, b, rfl, hforwards, -⟩ := forwards_perform hsound.roster task
      · exact .inl (hsame hforwards)
      · dsimp only at hg
        rw [hforwards] at hg
        obtain hg | hg := List.mem_append.1 hg
        · exact .inl hg
        · rw [List.mem_singleton.1 hg]
          exact .inr (.inl ⟨⟨rest, htasks⟩, rfl⟩)
  | receive _ hreceives => exact .inl (hsame (by cases hreceives <;> rfl))
  | query => exact .inl hg
  | arrive _ haccept =>
      obtain rfl := accept?_eq haccept
      exact .inl hg
  | work h =>
      cases h with
      | post | dialed | undialed | retune | tick => exact .inl hg
      | session h =>
          obtain ⟨x, -, hmoves⟩ := stepSession?_cases h
          refine .inl (hsame ?_)
          cases hmoves with
          | hands =>
              unfold handOver
              split <;> rfl
          | ends | goes => rfl
      | spliced moved h =>
          obtain ⟨fleet, outcome, heq, hrequest, -⟩ := endSplice_eq h moved
          dsimp only at hg
          rw [heq] at hg
          obtain ⟨-, hstage⟩ | ⟨-, hold⟩ := setForward_cases hg
          · exact .inr (.inr (.inr ⟨outcome, hrequest, hstage⟩))
          · exact .inl hold
      | @forward r t reach h =>
          by_cases hr : g.request = r
          · subst hr
            exact .inr (.inr (.inl ⟨reach, h⟩))
          · obtain ⟨f, hfind, hmoves⟩ := stepForward?_cases h
            obtain rfl := request_of_forward? hfind
            left
            cases hmoves with
            | advances | releases =>
                obtain ⟨hsame, -⟩ | ⟨-, hold⟩ := setForward_cases hg
                · exact absurd hsame hr
                · exact hold
            | reports =>
                rw [report_keeps forwards fun _ _ _ _ => rfl] at hg
                exact (List.mem_filter.1 hg).1

/-- Each request that arrived is in one place at most, and those that did not
arrive are in none. -/
structure Apart (w : World) : Prop where
  own : w.scheduler.HandsBackOwn
  once : ∀ r, w.scheduler.copies r + atHand w.tasks r ≤ if r ∈ w.arrived then 1 else 0

/-- No two forwards are for one request. -/
theorem Apart.forwards_nodup {w : World} (h : w.Apart) :
    (w.scheduler.forwards.map Forward.request).Nodup := by
  rw [List.nodup_iff_count_le_one]
  intro r
  have honce := h.once r
  have hcount : (w.scheduler.forwards.map Forward.request).count r =
      w.scheduler.forwards.countP fun f => f.request == r := by
    rw [List.count, List.countP_map]
    rfl
  rw [copies] at honce
  split at honce <;> omega

/-- The forward of a request stands out among the forwards. -/
theorem Apart.split_forwards {w : World} (h : w.Apart) {r : Nat} {f : Forward}
    (hfind : w.scheduler.forward? r = some f) :
    ∃ front back, w.scheduler.forwards = front ++ f :: back ∧
      (∀ stage, (w.scheduler.setForward r stage).forwards = front ++ { f with stage } :: back) ∧
      (w.scheduler.removeForward r).forwards = front ++ back := by
  obtain ⟨front, back, hsplit, -, hchange, hremove⟩ :=
    Keyed.split_of_find? h.forwards_nodup hfind
  exact ⟨front, back, hsplit, fun stage => hchange fun f => { f with stage }, hremove⟩

/-- A request that is new may be queued. -/
theorem Apart.arrive {w : World} (h : w.Apart) {r : Nat} (hnew : r ∉ w.arrived) (permits : Nat) :
    World.Apart { w with
      scheduler := { w.scheduler with permits, jobs := w.scheduler.jobs ++ [r] }
      arrived := r :: w.arrived } where
  own := h.own
  once q := by
    have honce := h.once q
    simp only [copies, List.count_append, List.count_singleton, List.mem_cons] at *
    by_cases hq : q = r
    · subst hq
      simp only [hnew, if_false] at honce
      simp
      omega
    · simp [hq, Ne.symm hq]
      omega

/-- Every step keeps the requests apart. -/
theorem Apart.step {w w' : World} (h : w.Apart) (hsound : w.Sound) (step : w.Step w') :
    w'.Apart := by
  cases step with
  | @perform task rest htasks =>
      refine ⟨?_, fun r => ?_⟩
      · intro f hf
        obtain ⟨heq, -⟩ | ⟨r, b, -, heq, -⟩ := forwards_perform hsound.roster task
        · exact h.own f (heq ▸ hf)
        · rw [heq] at hf
          obtain hf | hf := List.mem_append.1 hf
          · exact h.own f hf
          · rw [List.mem_singleton.1 hf]
            intro q hq
            obtain hq | hq := hq <;> contradiction
      · have hcopies := copies_perform hsound.roster task r
        have honce := h.once r
        rw [htasks] at honce
        simp only [atHand, List.countP_append, List.countP_cons, List.countP_nil] at *
        omega
  | receive htasks hreceives hopens =>
      refine ⟨?_, fun r => ?_⟩
      · cases hreceives <;> exact h.own
      · have honce := h.once r
        rw [htasks] at honce
        rw [Receives.copies_eq hreceives hopens r]
        exact honce
  | query htasks =>
      refine ⟨h.own, fun r => ?_⟩
      have honce := h.once r
      rw [htasks] at honce
      exact honce
  | arrive hnew haccept =>
      obtain rfl := accept?_eq haccept
      exact h.arrive hnew _
  | work hwork =>
      obtain ⟨hown, hcopies⟩ := hwork.apart h.own
      exact ⟨hown, fun r => Nat.le_trans (Nat.add_le_add_right (hcopies r) _) (h.once r)⟩

theorem apart_initial (settings : Settings) (permits : Nat) : (initial settings permits).Apart :=
  ⟨fun _ h => absurd h List.not_mem_nil, fun _ => Nat.zero_le _⟩

end World

namespace Run

variable {settings : Scheduler.Settings} {permits : Nat} {w : World} {past : List World}

/-- **A request is in one place at most**: queued, waiting, at hand, with a forward,
or handed back by one. -/
theorem apart (run : Run settings permits (w :: past)) : w.Apart := by
  induction run using Run.induct with
  | initial => exact World.apart_initial settings permits
  | kept run step ih => exact ih.step run.sound step

end Run

end StreamBalancer
