import Mathlib.Data.Finset.Max
import StreamBalancer.Proofs.Interleaving.Desk
import StreamBalancer.Proofs.Interleaving.Dispatches

/-!
# StreamBalancer.Proofs.Interleaving.Replay

In the failover mode the messages alone decide which instances requests go to.

1. The best instance is the one with the least number, so the whole effect of a task
   on the desk, and of all tasks that it leads to, is a function of the desk
   (`Desk.act`, `act_perform`, `act_dispatch`).
2. `World.hears` reads off a step to which message the scheduler turns, and
   `Desk.hear` is what handling the message does to the desk, in whatever order a
   snapshot's removals and revivals are made (`hear_of_opens`).
3. At every moment, what is left to do would make the desk that a replay of the
   messages makes (`Life.replayed`).  So histories with the same messages have the
   same dispatches (`Life.dispatches_eq`).
-/

namespace StreamBalancer

namespace Desk

variable (settings : Scheduler.Settings)

/-! ## Effects of tasks -/

/-- Give a request to the instance with the least number, which refuses it at the
ceiling.  It waits if there is none. -/
def dispatch (d : Desk) (request : Nat) : Desk :=
  if h : d.pool.Nonempty then
    let b := d.pool.min' h
    if settings.ceiling ≤ d.loads b then d
    else
      { d with
        loads := Function.update d.loads b (d.loads b + 1)
        assigned := d.assigned ++ [(request, b)] }
  else { d with pending := d.pending ++ [request] }

/-- Dispatch at most so many waiting requests while the pool has instances. -/
def drainSome : Nat → Desk → Desk
  | 0, d => d
  | n + 1, d =>
    match d.pending with
    | [] => d
    | request :: rest =>
      if d.pool.Nonempty then drainSome n (({ d with pending := rest }).dispatch settings request)
      else d

/-- Dispatch waiting requests, the oldest first, while the pool has instances. -/
def drain (d : Desk) : Desk := drainSome settings d.pending.length d

/-- Take note of the end of a forward. -/
def finish (d : Desk) (f : Finished) : Desk :=
  let d := { d with loads := Function.update d.loads f.backend (d.loads f.backend - 1) }
  match f.outcome with
  | .completed | .failed => d
  | .dialFailed request =>
    ({ d with pool := d.pool.erase f.backend }).dispatch settings request

/-- The address of an instance. -/
def address (d : Desk) (b : Nat) : String := (d.addresses[b]?).getD ""

/-- Let an instance take requests if it waits for its first tunnel. -/
def connect (d : Desk) (b : Nat) : Desk :=
  if d.connecting.contains (d.address b) then
    drain settings { d with
      schedulable := d.schedulable.insert (d.address b) b
      connecting := d.connecting.erase (d.address b)
      pool := insert b d.pool }
  else d

/-- Take note of a tunnel for an instance, which may not be known any more. -/
def handOver (d : Desk) (b : Nat) : Desk :=
  if d.tracked? (d.address b) = some b then d.connect settings b else d

/-- The effect of a task and of all that it leads to. -/
def act (d : Desk) : Scheduler.Task → Desk
  | .request r => d.dispatch settings r
  | .dispatch r => d.dispatch settings r
  | .finished f => d.finish settings f
  | .remove a => d.remove a
  | .revive a => d.revive a
  | .arrive a => d.arrive settings a
  | .drain => d.drain settings
  | .handover h => d.handOver settings h.backend
  | .connected b => d.connect settings b
  | _ => d

/-- The effect of tasks that are done one after the other. -/
def actAll (d : Desk) (tasks : List Scheduler.Task) : Desk := tasks.foldl (act settings) d

variable {settings} {d : Desk}

theorem actAll_append (xs ys : List Scheduler.Task) :
    d.actAll settings (xs ++ ys) = (d.actAll settings xs).actAll settings ys := List.foldl_append

theorem act_quiet {x : Scheduler.Task} (hx : x.leavesDesk = true) : d.act settings x = d := by
  cases x <;> first | rfl | contradiction

theorem actAll_quiet {tasks : List Scheduler.Task} (h : ∀ x ∈ tasks, x.leavesDesk = true) :
    d.actAll settings tasks = d := by
  induction tasks with
  | nil => rfl
  | cons x rest ih =>
      rw [actAll, List.foldl_cons, act_quiet (h x List.mem_cons_self)]
      exact ih fun y hy => h y (List.mem_cons_of_mem x hy)

/-- While the pool has instances, no request joins the queue. -/
theorem pending_dispatch (h : d.pool.Nonempty) (r : Nat) :
    (d.dispatch settings r).pending = d.pending := by
  rw [dispatch, dif_pos h]
  dsimp only
  split <;> rfl

theorem drain_of_nil (h : d.pending = []) : d.drain settings = d := by
  rw [drain, h]
  rfl

theorem drain_of_empty (h : ¬d.pool.Nonempty) : d.drain settings = d := by
  rw [drain]
  cases hpending : d.pending with
  | nil => rfl
  | cons r rest => simp only [List.length_cons, drainSome, hpending, if_neg h]

/-- To go through the queue is to dispatch the first request and to go through the
others. -/
theorem drain_of_cons {r : Nat} {rest : List Nat} (h : d.pending = r :: rest)
    (hpool : d.pool.Nonempty) :
    d.drain settings = (({ d with pending := rest }).dispatch settings r).drain settings := by
  have hrest : (({ d with pending := rest } : Desk).dispatch settings r).pending = rest :=
    @pending_dispatch settings { d with pending := rest } hpool r
  rw [drain, drain, hrest, h, List.length_cons]
  simp only [drainSome, h, if_pos hpool]

end Desk

namespace Scheduler

variable {s : Scheduler} {most : Nat} {log : List (Nat × Nat)}

theorem nonempty_pool_desk (s : Scheduler) (log : List (Nat × Nat)) :
    (s.desk log).pool.Nonempty ↔ s.pool.isEmpty = false := by
  constructor
  · rintro ⟨b, hb⟩
    exact Pool.isEmpty_eq_false_of_mem ((mem_pool_desk s log b).1 hb)
  · intro h
    obtain ⟨b, htop⟩ := Pool.exists_top h
    exact ⟨b, (mem_pool_desk s log b).2 (Array.mem_of_getElem? htop)⟩

/-- In the failover mode the best instance is the one with the least number. -/
theorem Best.eq_min' (h : s.roster.Sound most) (hmode : s.settings.mode = .failover) {b : Nat}
    (hbest : s.Best b) (hpool : (s.desk log).pool.Nonempty) : (s.desk log).pool.min' hpool = b := by
  have hmem := mem_pool_desk s log
  have hweight : ∀ c ∈ s.pool.items, s.weight c = c := fun c hc =>
    (weight_eq h c).trans (if_pos (lt_size_of_pooled h hc))
  refine Nat.le_antisymm (Finset.min'_le _ _ ((hmem b).2 hbest.pooled)) ?_
  refine Finset.le_min' _ _ _ fun c hc => ?_
  have hc := (hmem c).1 hc
  by_cases hcb : c = b
  · exact Nat.le_of_eq hcb.symm
  · have hlt := hbest.failover hmode c hc hcb
    rw [hweight c hc, hweight b hbest.pooled] at hlt
    exact Nat.le_of_lt hlt

/-- The desk of a scheduler whose pool has been rearranged. -/
theorem toFinset_perm {p q : Pool} (h : q.items.Perm p.items) :
    q.items.toList.toFinset = p.items.toList.toFinset :=
  List.toFinset_eq_of_perm _ _ (Array.perm_iff_toList_perm.1 h)

/-- **A dispatch** does to the desk what the desk says. -/
theorem act_dispatch (h : s.roster.Sound most) (hordered : s.pool.Ordered s.less)
    (hmode : s.settings.mode = .failover) (hpool : s.pool.isEmpty = false) (r : Nat) :
    (∃ t, s.perform (.dispatch r) = (t, []) ∧ t.routes = s.routes ∧
      t.desk log = (s.desk log).dispatch s.settings r) ∨
    ∃ t b, s.perform (.dispatch r) = (t, [.check b, .start r b]) ∧ t.routes = s.routes ∧
      t.desk (log ++ [(r, b)]) = (s.desk log).dispatch s.settings r := by
  obtain ⟨b, htop⟩ := Pool.exists_top hpool
  have hbest := best_of_top h hordered htop
  have hnonempty := (nonempty_pool_desk s log).2 hpool
  have hload : (s.desk log).loads b = s.ongoing b := rfl
  rw [Desk.dispatch, dif_pos hnonempty, hbest.eq_min' h hmode hnonempty]
  dsimp only
  rw [hload]
  obtain ⟨pool, -, hperm, ⟨hfull, heq⟩ | ⟨hroom, heq⟩⟩ := perform_dispatch_of_top h htop r
  · refine .inl ⟨_, heq, rfl, ?_⟩
    rw [if_pos hfull]
    exact congrArg (fun pool => { s.desk log with pool }) (toFinset_perm hperm)
  · refine .inr ⟨_, b, heq, rfl, ?_⟩
    rw [if_neg (Nat.not_le.2 hroom)]
    apply Desk.ext
    · rfl
    · rfl
    · exact congrArg (fun q => q.identities.map Identity.address)
        (roster_modifyBackend { s with pool } b Backend.begin fun _ => rfl)
    · exact toFinset_perm hperm
    · funext c
      exact (ongoing_begin h hbest.pooled pool c).trans (Function.update_apply _ _ _ _).symm
    · rfl
    · rfl

/-- The desk of a scheduler whose pool, after the end of a forward, is another one. -/
theorem desk_finish (s : Scheduler) (b : Nat) (series : Series) (pool : Pool)
    (log : List (Nat × Nat)) :
    (Scheduler.desk { ((s.modifyBackend b Backend.finish).count series).showOngoing b with pool }
      log) =
      { s.desk log with
        pool := pool.items.toList.toFinset
        loads := Function.update (s.desk log).loads b ((s.desk log).loads b - 1) } := by
  apply Desk.ext
  · rfl
  · rfl
  · exact congrArg (fun q => q.identities.map Identity.address)
      (roster_modifyBackend s b Backend.finish fun _ => rfl)
  · rfl
  · funext c
    exact (ongoing_finish s b c).trans (Function.update_apply _ _ _ _).symm
  · rfl
  · rfl

theorem act_finished (h : s.roster.Sound most) (f : Finished) :
    ((s.perform (.finished f)).1.desk log).actAll s.settings (s.perform (.finished f)).2 =
      (s.desk log).finish s.settings f := by
  obtain ⟨b, outcome⟩ := f
  let t := ((s.modifyBackend b Backend.finish).count (.requests outcome.verdict)).showOngoing b
  have hpool : t.pool = s.pool := rfl
  cases outcome with
  | completed | failed =>
      refine (desk_finish s b _ (t.pool.update t.less b) log).trans ?_
      rw [toFinset_perm (Pool.update_indexed t.less (hpool ▸ h.indexed) b).2]
      rfl
  | dialFailed r =>
      refine congrArg (Desk.dispatch s.settings · r)
        ((desk_finish s b (.requests .dialFailed) (t.pool.erase t.less b) log).trans ?_)
      have herase : (t.pool.erase t.less b).items.toList.toFinset = (s.desk log).pool.erase b := by
        ext c
        rw [List.mem_toFinset, Array.mem_toList_iff, Finset.mem_erase, mem_pool_desk, and_comm]
        exact Pool.mem_erase t.less h.indexed b c
      rw [herase]

theorem act_drain (s : Scheduler) (log : List (Nat × Nat)) :
    ((s.perform .drain).1.desk log).actAll s.settings (s.perform .drain).2 =
      (s.desk log).drain s.settings := by
  have hpending : (s.desk log).pending = s.pending := rfl
  simp only [perform]
  split
  · next hnil => exact (Desk.drain_of_nil (hpending.trans hnil)).symm
  · next r rest hcons =>
    cases hempty : s.pool.isEmpty with
    | true =>
        have hnone : ¬(s.desk log).pool.Nonempty := by
          rw [nonempty_pool_desk, hempty]
          simp
        exact (Desk.drain_of_empty hnone).symm
    | false =>
        exact (Desk.drain_of_cons (hpending.trans hcons) ((nonempty_pool_desk s log).2 hempty)).symm

theorem act_connected (s : Scheduler) (log : List (Nat × Nat)) (b : Nat) :
    ((s.perform (.connected b)).1.desk log).actAll s.settings (s.perform (.connected b)).2 =
      (s.desk log).connect s.settings b := by
  have haddress : (s.desk log).address b = s.address b := address_desk s log b
  have hconnecting : (s.desk log).connecting = s.connecting := rfl
  rw [Desk.connect, haddress, hconnecting]
  simp only [perform]
  split
  · refine congrArg (Desk.drain s.settings) ?_
    apply Desk.ext
    · rfl
    · rfl
    · rfl
    · exact toFinset_push _ s.pool b
    · rfl
    · rfl
    · rfl
  · rfl

theorem act_handover (h : s.roster.Sound most) (v : Handover) :
    ((s.perform (.handover v)).1.desk log).actAll s.settings (s.perform (.handover v)).2 =
      (s.desk log).handOver s.settings v.backend := by
  have haddress : (s.desk log).address v.backend = s.address v.backend :=
    address_desk s log v.backend
  have hcurrent : s.isCurrent v.backend = true ↔
      (s.desk log).tracked? ((s.desk log).address v.backend) = some v.backend := by
    have htracked : (s.desk log).tracked? (s.address v.backend) =
        s.tracked? (s.address v.backend) := rfl
    rw [haddress, htracked, tracked_iff h, isCurrent_eq h, Bool.not_eq_true', eq_self, and_true]
  have hdesk : (s.perform (.handover v)).1.desk log = s.desk log :=
    desk_congr (roster_perform s rfl) (ongoing_perform s rfl) (pending_of_not_moves s rfl)
  rw [hdesk, Desk.handOver]
  simp only [perform]
  split
  · next hgone =>
    rw [if_neg]
    · rfl
    · rw [← hcurrent]
      simpa using hgone
  · next hhere =>
    rw [if_pos (hcurrent.1 (by simpa using hhere))]
    split
    · next x _ =>
      have hcloses : ∀ y ∈ x.tunnel.toList.map Task.close, y.leavesDesk = true := by
        intro y hy
        obtain ⟨t, -, rfl⟩ := List.mem_map.1 hy
        rfl
      rw [Desk.actAll_append, Desk.actAll_quiet hcloses]
      rfl
    · rfl

/-- **Any other task** does to the desk, with all that it leads to, what the desk says. -/
theorem act_perform (h : s.roster.Sound most) {x : Task} (hx : ∀ r, x ≠ .dispatch r) :
    ((s.perform x).1.desk log).actAll s.settings (s.perform x).2 =
      (s.desk log).act s.settings x := by
  by_cases hquiet : x.leavesDesk = true
  · obtain ⟨hdesk, htasks⟩ := @desk_quiet s log x hquiet
    rw [hdesk, Desk.actAll_quiet htasks, Desk.act_quiet hquiet]
  cases x with
  | check | inspect | weigh | start | empty | close | failure | mark | publish =>
      exact absurd rfl hquiet
  | dispatch r => exact absurd rfl (hx r)
  | remove a =>
      obtain ⟨hdesk, htasks⟩ := @desk_remove s most log h a
      rw [hdesk, Desk.actAll_quiet htasks, Desk.act]
  | revive a => exact desk_revive h a
  | arrive a =>
      have hnone : (s.perform (.arrive a)).2 = [] := rfl
      rw [hnone]
      exact desk_arrive s log a
  | request r =>
      cases hempty : s.pool.isEmpty with
      | true =>
          have hnone : ¬(s.desk log).pool.Nonempty := by
            rw [nonempty_pool_desk, hempty]
            simp
          simp only [perform, hempty, if_true]
          rw [Desk.act, Desk.dispatch, dif_neg hnone]
          rfl
      | false =>
          simp only [perform, hempty]
          rfl
  | finished f => exact act_finished h f
  | drain => exact act_drain s log
  | handover v => exact act_handover h v
  | connected b => exact act_connected s log b

end Scheduler

/-! ## Messages -/

namespace Desk

variable (settings : Scheduler.Settings)

/-- The known addresses that are not healthy. -/
def gone (d : Desk) (healthy : List String) : List String :=
  (d.schedulable.addresses ++ d.connecting.addresses).filter fun a => a ∉ healthy

/-- The healthy addresses that are not known. -/
def fresh (d : Desk) (healthy : List String) : List String :=
  healthy.filter fun a => (d.tracked? a).isNone

/-- The effect of handling a message. -/
def hear (d : Desk) : Scheduler.Event → Desk
  | .request r => d.dispatch settings r
  | .finished f => d.finish settings f
  | .snapshot x =>
    if x.healthy = [] then d
    else (d.sweep settings (d.gone x.healthy) x.healthy (d.fresh x.healthy)).drain settings
  | .failure _ => d
  | .handover h => d.handOver settings h.backend

/-- Before anything has happened. -/
def blank : Desk where
  schedulable := {}
  connecting := {}
  addresses := []
  pool := ∅
  loads _ := 0
  pending := []
  assigned := []

end Desk

namespace Scheduler

variable {s t : Scheduler} {log : List (Nat × Nat)}

/-- The changes of a snapshot, without the dispatches that follow on them. -/
def changes (removals revivals arrivals : List String) : List Task :=
  removals.map .remove ++ (revivals.map .revive ++ arrivals.map .arrive)

theorem sweep_eq_changes (removals revivals arrivals : List String) :
    sweep removals revivals arrivals = changes removals revivals arrivals ++ [.drain] := by
  rw [sweep, changes, List.append_assoc, List.append_assoc]

theorem actAll_changes (d : Desk) (settings : Settings) (removals revivals arrivals : List String) :
    d.actAll settings (changes removals revivals arrivals) =
      d.sweep settings removals revivals arrivals := by
  rw [changes, Desk.actAll, List.foldl_append, List.foldl_append, List.foldl_map, List.foldl_map,
    List.foldl_map]
  rfl

/-- The tasks of the changes of a snapshot. -/
theorem actAll_sweep (d : Desk) (settings : Settings) (removals revivals arrivals : List String) :
    d.actAll settings (sweep removals revivals arrivals) =
      (d.sweep settings removals revivals arrivals).drain settings := by
  rw [sweep_eq_changes, Desk.actAll_append, actAll_changes]
  rfl

/-- **The tasks of a message** do to the desk what the message does, whatever the order of
removals and revivals. -/
theorem hear_of_opens (hmode : s.settings.mode = .failover) {e : Event} {tasks : List Task}
    (h : s.Opens e tasks) :
    (s.desk log).actAll s.settings (tasks ++ [.publish]) = (s.desk log).hear s.settings e := by
  rw [Desk.actAll_append]
  cases h with
  | request | finished | failure | handover => rfl
  | ignored x hnone => simp only [Desk.hear, if_pos hnone]; rfl
  | snapshot x hsome hremovals hrevivals harrivals =>
      obtain rfl | ⟨hother, -⟩ := harrivals
      · rw [actAll_sweep, (s.desk log).sweep_eq_of_perm s.settings hremovals hrevivals, Desk.hear,
          if_neg hsome]
        rfl
      · rw [hmode] at hother
        contradiction

/-! ### Who takes messages -/

/-- No message is taken from a queue. -/
structure Keeps (s t : Scheduler) : Prop where
  jobs : s.jobs <+: t.jobs
  outcomes : s.outcomes <+: t.outcomes
  snapshots : s.snapshots <+: t.snapshots
  handovers : s.handovers <+: t.handovers

theorem keeps_of_eq (hjobs : t.jobs = s.jobs) (houtcomes : t.outcomes = s.outcomes)
    (hsnapshots : t.snapshots = s.snapshots) (hhandovers : t.handovers = s.handovers) :
    s.Keeps t where
  jobs := hjobs ▸ List.prefix_rfl
  outcomes := houtcomes ▸ List.prefix_rfl
  snapshots := hsnapshots ▸ List.prefix_rfl
  handovers := hhandovers ▸ List.prefix_rfl

/-- Tasks read and send no messages. -/
theorem keeps_perform (s : Scheduler) (x : Task) : s.Keeps (s.perform x).1 := by
  obtain ⟨hsnapshots, hhandovers⟩ := Prod.mk.inj (inbox_perform s x)
  obtain ⟨hjobs, houtcomes⟩ := unread_perform s x
  exact keeps_of_eq hjobs houtcomes hsnapshots hhandovers

theorem Work.keeps (h : s.Work t) : s.Keeps t := by
  cases h with
  | post x => exact ⟨List.prefix_rfl, List.prefix_rfl, List.prefix_append _ _, List.prefix_rfl⟩
  | dialed | undialed | retune | tick => exact keeps_of_eq rfl rfl rfl rfl
  | session h =>
      obtain ⟨x, -, hmoves⟩ := stepSession?_cases h
      cases hmoves with
      | hands =>
          unfold handOver
          split
          · exact keeps_of_eq rfl rfl rfl rfl
          · exact ⟨List.prefix_rfl, List.prefix_rfl, List.prefix_rfl, List.prefix_append _ _⟩
      | ends | goes => exact keeps_of_eq rfl rfl rfl rfl
  | spliced moved h =>
      obtain ⟨g, outcome, heq, -⟩ := endSplice_eq h moved
      rw [heq]
      exact keeps_of_eq rfl rfl rfl rfl
  | forward reach h =>
      obtain ⟨f, -, hmoves⟩ := stepForward?_cases h
      cases hmoves with
      | advances | releases => exact keeps_of_eq rfl rfl rfl rfl
      | reports =>
          unfold report
          split
          · split <;> exact keeps_of_eq rfl rfl rfl rfl
          · exact ⟨List.prefix_rfl, List.prefix_append _ _, List.prefix_rfl, List.prefix_rfl⟩

end Scheduler

namespace World

open Scheduler

/-- The message to which the scheduler turns, the report of a broken tunnel apart. -/
def hears (w w' : World) : Option Event :=
  ((lost? w.scheduler.jobs w'.scheduler.jobs).map .request).or
    (((lost? w.scheduler.outcomes w'.scheduler.outcomes).map .finished).or
      (((lost? w.scheduler.snapshots w'.scheduler.snapshots).map .snapshot).or
        ((lost? w.scheduler.handovers w'.scheduler.handovers).map .handover)))

variable {w w' : World}

theorem hears_of_keeps (h : w.scheduler.Keeps w'.scheduler) : w.hears w' = none := by
  have hnone : ∀ {α : Type} {old new : List α}, old <+: new → lost? old new = none := by
    intro α old new hprefix
    have := hprefix.length_le
    exact if_neg (by omega)
  rw [hears, hnone h.jobs, hnone h.outcomes, hnone h.snapshots, hnone h.handovers]
  rfl

/-- The scheduler hears the message to which it turns. -/
theorem hears_of_receives {e : Event} {s : Scheduler} (h : w.scheduler.Receives e s)
    (tasks : List Task) :
    w.hears { w with scheduler := s, tasks } = some e ∨
      (w.hears { w with scheduler := s, tasks } = none ∧ ∃ f, e = .failure f) := by
  cases h with
  | failure => exact .inr ⟨by simp [hears], _, rfl⟩
  | request h | finished h | snapshot h | handover h => exact .inl (by simp [hears, h])

end World

namespace Life

open Scheduler World

variable {settings : Settings} {permits : Nat} {w : World} {past : List World}

/-- Whoever takes no message, starts no forward and leaves desk and plan alone leaves all
that is replayed. -/
theorem replay_of_idle {w' : World} (past : List World)
    (hdesk : ∀ log, w'.scheduler.desk log = w.scheduler.desk log) (htasks : w'.tasks = w.tasks)
    (hkeeps : w.scheduler.Keeps w'.scheduler)
    (hforwards : w'.scheduler.forwards.length ≤ w.scheduler.forwards.length) :
    (w'.scheduler.desk (gather assigns (w' :: w :: past))).actAll settings w'.tasks =
        (w.scheduler.desk (gather assigns (w :: past))).actAll settings w.tasks ∧
      gather hears (w' :: w :: past) = gather hears (w :: past) := by
  rw [gather_cons, gather_cons, assigns_of_le htasks hforwards, hears_of_keeps hkeeps, hdesk, htasks,
    Option.toList_none, Option.toList_none, List.append_nil, List.append_nil]
  exact ⟨rfl, rfl⟩

/-- What a task makes of the desk, with all that it leads to. -/
theorem replay_of_perform (life : Life settings permits (w :: past))
    (hmode : settings.mode = .failover) {x : Task} {rest : List Task} (htasks : w.tasks = x :: rest)
    (log : List (Nat × Nat)) :
    let w' := { w with
      scheduler := (w.scheduler.perform x).1, tasks := (w.scheduler.perform x).2 ++ rest }
    (w'.scheduler.desk (log ++ (w.assigns w').toList)).actAll settings (w.scheduler.perform x).2 =
      (w.scheduler.desk log).act settings x := by
  have hsound := life.sound.roster
  have hsettings := life.steady.1
  have hnext := next_of_planned life.planned htasks
  dsimp only
  by_cases hx : ∃ r, x = .dispatch r
  · obtain ⟨r, rfl⟩ := hx
    have hpool := life.pool_of_dispatch (htasks ▸ List.mem_cons_self)
    obtain ⟨t, heq, hroutes, hdesk⟩ | ⟨t, b, heq, hroutes, hdesk⟩ :=
      @act_dispatch _ _ log hsound life.pool_ordered (hsettings ▸ hmode) hpool r
    · rw [heq, hnext.assigns_none hroutes, Option.toList_none, List.append_nil, hdesk, hsettings]
      rfl
    · rw [heq, hnext.assigns_some hroutes, Option.toList_some, hdesk, hsettings]
      rfl
  · have hother : ∀ r, x ≠ .dispatch r := fun r h => hx ⟨r, h⟩
    have hnone := life.assigns_of_perform htasks hother
    rw [hnone, Option.toList_none, List.append_nil, ← hsettings]
    exact act_perform hsound hother

/-- **What is left to do** would make the desk that a replay of the messages makes. -/
theorem replayed (life : Life settings permits (w :: past)) (hmode : settings.mode = .failover) :
    (w.scheduler.desk (gather assigns (w :: past))).actAll settings w.tasks =
      (gather hears (w :: past)).foldl (Desk.hear settings) Desk.blank := by
  induction life using Life.induct with
  | initial => rfl
  | @signalled w past life ih =>
      obtain ⟨hdesk, hears⟩ := @replay_of_idle settings w
        { w with scheduler := w.scheduler.signal } past (fun _ => rfl) rfl
        (keeps_of_eq rfl rfl rfl rfl) (Nat.le_refl _)
      rw [hdesk, hears, ih]
  | @kept w w' past life step ih =>
      cases step with
      | @perform x rest htasks =>
          rw [gather_cons, gather_cons, hears_of_keeps (keeps_perform _ _), Option.toList_none,
            List.append_nil, ← ih, Desk.actAll_append, life.replay_of_perform hmode htasks, htasks]
          rfl
      | @receive e s tasks htasks hreceives hopens =>
          have hassigns := life.assigns_of_rest (.receive htasks hreceives hopens) htasks
          have hdesk : ∀ log, s.desk log = w.scheduler.desk log := by cases hreceives <;> exact fun _ => rfl
          have hsettings : s.settings = settings :=
            (congrArg Prod.fst hreceives.fixed_eq).trans life.steady.1
          rw [htasks] at ih
          rw [gather_cons, gather_cons, hassigns, Option.toList_none, List.append_nil, ← hsettings,
            hear_of_opens (hsettings ▸ hmode) hopens, hsettings, hdesk, List.foldl_append, ← ih]
          obtain hears | ⟨hears, f, rfl⟩ := hears_of_receives hreceives (tasks ++ [.publish])
          · rw [hears]
            rfl
          · rw [hears]
            rfl
      | query htasks =>
          have hassigns := life.assigns_of_rest (.query htasks) htasks
          have hears := @hears_of_keeps w { w with tasks := [.publish] } (keeps_of_eq rfl rfl rfl rfl)
          rw [gather_cons, gather_cons, hassigns, hears, Option.toList_none, Option.toList_none,
            List.append_nil, List.append_nil, ← ih, htasks]
          rfl
      | @arrive r s hnew haccept =>
          obtain rfl := accept?_eq haccept
          obtain ⟨hdesk, hears⟩ := @replay_of_idle settings w
            { w with
              scheduler := { w.scheduler with
                permits := w.scheduler.permits - 1, jobs := w.scheduler.jobs ++ [r] }
              arrived := r :: w.arrived } past (fun _ => rfl) rfl
            ⟨List.prefix_append _ _, List.prefix_rfl, List.prefix_rfl, List.prefix_rfl⟩ (Nat.le_refl _)
          rw [hdesk, hears, ih]
      | @work s hwork =>
          obtain ⟨hdesk, hears⟩ := @replay_of_idle settings w { w with scheduler := s } past
            (fun _ => hwork.desk_eq) rfl hwork.keeps hwork.forwards_le
          rw [hdesk, hears, ih]

/-- **The same messages make the same dispatches** in the failover mode, whoever acts in
between and in whatever order snapshots are gone through. -/
theorem dispatches_eq {permits' : Nat} {v : World} {before : List World}
    (life : Life settings permits (w :: past)) (life' : Life settings permits' (v :: before))
    (hmode : settings.mode = .failover)
    (hrest : w.tasks = []) (hrest' : v.tasks = [])
    (hears : gather hears (w :: past) = gather hears (v :: before)) :
    gather assigns (w :: past) = gather assigns (v :: before) := by
  have hw := life.replayed hmode
  have hv := life'.replayed hmode
  rw [hrest] at hw
  rw [hrest', ← hears, ← hw] at hv
  exact (congrArg Desk.assigned hv).symm

end Life

end StreamBalancer
