import StreamBalancer.Proofs.Fleet
import StreamBalancer.Scheduler.Events
import StreamBalancer.Scheduler.Work

/-!
# StreamBalancer.Proofs.Interleaving

The scheduler and its helpers at work at the same time.

1. The handling of a message is cut into tasks.  A task looks at, or changes, at
   most one thing that other parties can touch: a slot, a tunnel, a queue.  What
   only the scheduler reads (tables, pool, pending requests, loads, the flag of a
   slot that is being replaced) a task may change along with it.
2. Between two tasks anybody else may act: a session, a forward, a client, an
   agent, the clock.
3. Messages of one queue come in order; the scheduler may turn to any queue.
4. The order in which a snapshot's removals and revivals are made is open, and so
   is the order of its arrivals if they are shuffled.

`World.Step` is one step of anybody, and `Run` a history of such steps before
shutdown.  That the tasks of a message, done without interruption, are what the
handlers of `Scheduler.Events` do is proved in
`StreamBalancer.Proofs.Interleaving.Handlers`.
-/

namespace StreamBalancer

namespace Scheduler

/-- A slot of an instance. -/
def slot? (s : Scheduler) (b slot : Nat) : Option Slot := s.fleet.slot? b slot

/-- The tunnel in a slot of an instance. -/
def tunnelAt (s : Scheduler) (b slot : Nat) : Option Nat := s.fleet.tunnelAt b slot

/-! ## Tasks -/

/-- A piece of the handling of a message. -/
inductive Task where
  /-- Queue a request, or go on to dispatch it. -/
  | request (request : Nat)
  /-- Choose an instance for a request. -/
  | dispatch (request : Nat)
  /-- Count a dispatch, and begin an inspection if one is due. -/
  | check (b : Nat)
  /-- Look which tunnel is in a slot. -/
  | inspect (b slot : Nat)
  /-- Ask to replace a tunnel found in a slot, if it is worn. -/
  | weigh (b slot tunnel : Nat)
  /-- Start the forward of a request. -/
  | start (request b : Nat)
  /-- Take note of the end of a forward. -/
  | finished (report : Finished)
  /-- Strike an instance from the tables and give it up. -/
  | remove (address : String)
  /-- Take the tunnel out of a slot of an instance that was given up. -/
  | empty (b slot : Nat)
  /-- Close a tunnel that was taken out, or that nobody wants. -/
  | close (tunnel : Nat)
  /-- Put a schedulable instance back into the pool. -/
  | revive (address : String)
  /-- Add an instance if there is room. -/
  | arrive (address : String)
  /-- Go on with the pending requests. -/
  | drain
  /-- Look at the slot that a report of a broken tunnel names. -/
  | failure (report : Failure)
  /-- Ask for a tunnel for a slot. -/
  | mark (b slot : Nat)
  /-- Put a tunnel that was handed over into its slot. -/
  | handover (handover : Handover)
  /-- Let an instance take requests if this was its first tunnel. -/
  | connected (b : Nat)
  /-- Set the gauges. -/
  | publish
deriving DecidableEq, Repr

/-- Strike an address and its instance from the tables, take the instance out of
the pool and mark it as given up. -/
def strike (s : Scheduler) (address : String) (b : Nat) : Scheduler :=
  let s := { s with
    schedulable := s.schedulable.erase address
    connecting :=
      if s.schedulable.contains address then s.connecting else s.connecting.erase address }
  ((s.withdraw b).modifyBackend b fun x => { x with retired := true }).setOngoingGauge address 0

/-- Do a task.  The result lists the tasks that it leads to, to be done next. -/
def perform (s : Scheduler) : Task → Scheduler × List Task
  | .request r =>
    if s.pool.isEmpty then ({ s with pending := s.pending ++ [r] }, []) else (s, [.dispatch r])
  | .dispatch r =>
    match s.pool.pop s.less with
    | (none, _) => ({ s with pending := s.pending ++ [r] }, [])
    | (some b, pool) =>
      let s := { s with pool }
      if s.settings.ceiling ≤ s.ongoing b then ((s.enlist b).refuse r, [])
      else ((s.modifyBackend b Backend.begin).enlist b, [.check b, .start r b])
  | .check b =>
    match s.fleet.backend? b with
    | none => (s, [])
    | some x =>
      if x.inspectionDue s.settings.policy s.uptime then
        (s.modifyBackend b fun x => { x.countDispatch with inspected := some s.uptime },
          (List.range x.slots.length).map (.inspect b))
      else (s.modifyBackend b Backend.countDispatch, [])
  | .inspect b slot => (s, ((s.tunnelAt b slot).map (.weigh b slot)).toList)
  | .weigh b slot tunnel =>
    if s.settings.policy.highWater < s.fleet.nextId tunnel then
      match s.fleet.markReplacing b slot with
      | (some true, fleet) =>
        ((({ s with fleet }).count (.sessions .replaced)).requestSession b slot, [])
      | _ => (s, [])
    else (s, [])
  | .start r b => ((s.showOngoing b).startForward r b, [])
  | .finished f =>
    let s := ((s.modifyBackend f.backend Backend.finish).count
      (.requests f.outcome.verdict)).showOngoing f.backend
    match f.outcome with
    | .completed | .failed => (s.resort f.backend, [])
    | .dialFailed r => ((s.withdraw f.backend).count .rescheduled, [.request r])
  | .remove a =>
    match s.tracked? a with
    | none => (s, [])
    | some b =>
      (s.strike a b,
        (List.range (((s.fleet.backend? b).map fun x => x.slots.length).getD 0)).map (.empty b))
  | .empty b slot =>
    match s.tunnelAt b slot with
    | some t => ({ s with fleet := (s.fleet.evict b slot t).2 }, [.close t])
    | none => (s, [])
  | .close t => ({ s with fleet := s.fleet.close t }, [])
  | .revive a => (s.revive a, [])
  | .arrive a => (s.addIfRoom a, [])
  | .drain =>
    match s.pending with
    | [] => (s, [])
    | r :: rest =>
      if s.pool.isEmpty then (s, []) else ({ s with pending := rest }, [.dispatch r, .drain])
  | .failure f =>
    if !s.isCurrent f.backend || s.holdsAnother f.backend f.slot f.tunnel then (s, [])
    else (s, [.mark f.backend f.slot])
  | .mark b slot =>
    match s.fleet.markReplacing b slot with
    | (some true, fleet) => (({ s with fleet }).requestSession b slot, [])
    | (_, fleet) => ({ s with fleet }, [])
  | .handover h =>
    if !s.isCurrent h.backend then (s, [.close h.tunnel])
    else
      match s.slot? h.backend h.slot with
      | some x =>
        (s.modifyBackend h.backend fun y => y.install h.slot h.tunnel,
          x.tunnel.toList.map .close ++ [.connected h.backend])
      | none => (s, [.close h.tunnel, .connected h.backend])
  | .connected b =>
    let address := s.address b
    if s.connecting.contains address then
      (({ s with connecting := s.connecting.erase address }).makeSchedulable b, [.drain])
    else (s, [])
  | .publish => (s.publishGauges, [])

/-! ## Messages -/

/-- The next message of one of the queues is taken. -/
inductive Receives (s : Scheduler) : Event → Scheduler → Prop where
  | request {r rest} (h : s.jobs = r :: rest) : Receives s (.request r) { s with jobs := rest }
  | finished {f rest} (h : s.outcomes = f :: rest) :
      Receives s (.finished f) { s with outcomes := rest }
  | snapshot {x rest} (h : s.snapshots = x :: rest) :
      Receives s (.snapshot x) { s with snapshots := rest }
  | failure {f rest} (h : s.fleet.failures = f :: rest) :
      Receives s (.failure f) { s with fleet := { s.fleet with failures := rest } }
  | handover {h rest} (hh : s.handovers = h :: rest) :
      Receives s (.handover h) { s with handovers := rest }

/-- The tasks of the changes of a snapshot. -/
def sweep (removals revivals arrivals : List String) : List Task :=
  removals.map .remove ++ (revivals.map .revive ++ (arrivals.map .arrive ++ [.drain]))

/-- The orders in which new addresses may be added: that of the bytes, or any at
all if they are shuffled. -/
def MayArrive (s : Scheduler) (fresh arrivals : List String) : Prop :=
  arrivals = fresh ∨
    (s.settings.mode = .leastLoaded ∧ s.settings.shuffle = true ∧ arrivals.Perm fresh)

/-- The tasks with which the handling of a message begins. -/
inductive Opens (s : Scheduler) : Event → List Task → Prop where
  | request (r : Nat) : Opens s (.request r) [.request r]
  | finished (f : Finished) : Opens s (.finished f) [.finished f]
  | failure (f : Failure) : Opens s (.failure f) [.failure f]
  | handover (h : Handover) : Opens s (.handover h) [.handover h]
  | ignored (x : Snapshot) (h : x.healthy = []) : Opens s (.snapshot x) []
  | snapshot (x : Snapshot) {removals revivals arrivals : List String} (h : x.healthy ≠ [])
      (hremovals : removals.Perm (s.gone x.healthy)) (hrevivals : revivals.Perm x.healthy)
      (harrivals : s.MayArrive (s.fresh x.healthy) arrivals) :
      Opens s (.snapshot x) (sweep removals revivals arrivals)

/-! ## The helpers -/

/-- A step of anybody but the scheduler, the arrival of a request apart. -/
inductive Work (s : Scheduler) : Scheduler → Prop where
  /-- A snapshot is sent. -/
  | post (x : Snapshot) : Work s { s with snapshots := s.snapshots ++ [x] }
  /-- A session goes on. -/
  | session {draw number : Nat} {t : Scheduler} (h : s.stepSession? draw number = some t) : Work s t
  /-- A dial gives a tunnel, which was never told to close. -/
  | dialed {number : Nat} {x : Session} (tunnel : Tunnel) (h : s.session? number = some x)
      (hdialing : x.isDialing = true) (hcloses : tunnel.closes = 0) :
      Work s (s.dialSucceeded number tunnel)
  /-- A dial fails. -/
  | undialed {number : Nat} {x : Session} (draw : Nat) (h : s.session? number = some x)
      (hdialing : x.isDialing = true) : Work s (s.dialFailed number draw)
  /-- A forward goes on. -/
  | forward {request : Nat} {t : Scheduler} (reach : ListenAddress → Bool)
      (h : s.stepForward? reach request = some t) : Work s t
  /-- A splice ends. -/
  | spliced {request : Nat} {f : Forward} {route : Route} (moved : Option (Nat × Nat))
      (h : s.forward? request = some f) (hstage : f.stage = .splicing route) :
      Work s (s.endSplice request moved)
  /-- A tunnel's next stream id moves, or its far end answers otherwise. -/
  | retune (t : Nat) (nextId : UInt32) (answer : StreamAnswer) :
      Work s { s with fleet := s.fleet.modifyTunnel t fun x => { x with nextId, answer } }
  /-- The clocks move. -/
  | tick {now uptime : Nat} (hnow : s.now ≤ now) (huptime : s.uptime ≤ uptime) :
      Work s { s with now, uptime }

end Scheduler

/-! ## Worlds -/

/-- The scheduler in the midst of its work. -/
structure World where
  /-- The state of the scheduler and its helpers. -/
  scheduler : Scheduler
  /-- What is left to do of the message at hand. -/
  tasks : List Scheduler.Task := []
  /-- The requests that ever arrived. -/
  arrived : List Nat := []

namespace World

open Scheduler

/-- Before anything has happened. -/
def initial (settings : Settings) (permits : Nat) : World :=
  { scheduler := { settings, permits } }

/-- One step. -/
inductive Step (w : World) : World → Prop where
  /-- The scheduler does its next task. -/
  | perform {task : Task} {rest : List Task} (h : w.tasks = task :: rest) :
      Step w { w with
        scheduler := (w.scheduler.perform task).1, tasks := (w.scheduler.perform task).2 ++ rest }
  /-- The scheduler turns to a message. -/
  | receive {e : Event} {s : Scheduler} {tasks : List Task} (h : w.tasks = [])
      (hreceives : w.scheduler.Receives e s) (hopens : s.Opens e tasks) :
      Step w { w with scheduler := s, tasks := tasks ++ [.publish] }
  /-- The scheduler is asked for statistics. -/
  | query (h : w.tasks = []) : Step w { w with tasks := [.publish] }
  /-- A request that is new arrives. -/
  | arrive {r : Nat} {s : Scheduler} (h : r ∉ w.arrived) (haccept : w.scheduler.accept? r = some s) :
      Step w { w with scheduler := s, arrived := r :: w.arrived }
  /-- Somebody else acts. -/
  | work {s : Scheduler} (h : w.scheduler.Work s) : Step w { w with scheduler := s }

/-- The world after the next task is done. -/
def next (w : World) : World :=
  match w.tasks with
  | [] => w
  | task :: rest =>
    { w with
      scheduler := (w.scheduler.perform task).1, tasks := (w.scheduler.perform task).2 ++ rest }

theorem step_next {w : World} (h : w.tasks ≠ []) : w.Step w.next := by
  unfold next
  split
  · contradiction
  · next htasks => exact .perform htasks

theorem step_session {w : World} (draw number : Nat)
    (h : (w.scheduler.stepSession? draw number).isSome = true) :
    w.Step { w with scheduler := (w.scheduler.stepSession? draw number).get h } :=
  .work (.session (Option.some_get h).symm)

theorem step_forward {w : World} (reach : ListenAddress → Bool) (request : Nat)
    (h : (w.scheduler.stepForward? reach request).isSome = true) :
    w.Step { w with scheduler := (w.scheduler.stepForward? reach request).get h } :=
  .work (.forward reach (Option.some_get h).symm)

end World

/-- A history before shutdown, the present first. -/
inductive Run (settings : Scheduler.Settings) (permits : Nat) : List World → Prop where
  | start : Run settings permits [World.initial settings permits]
  | step {w w' : World} {past : List World} (run : Run settings permits (w :: past))
      (h : w.Step w') : Run settings permits (w' :: w :: past)

namespace Run

/-- What holds at first and is kept by every step holds of every history. -/
theorem induct {settings : Scheduler.Settings} {permits : Nat}
    {P : ∀ {w : World} {past : List World}, Run settings permits (w :: past) → Prop}
    (initial : P .start)
    (kept : ∀ {w w' : World} {past : List World} (run : Run settings permits (w :: past))
      (h : w.Step w'), P run → P (run.step h))
    {w : World} {past : List World} (run : Run settings permits (w :: past)) : P run :=
  match w, past, run with
  | _, _, .start => initial
  | _, _, .step run h => kept run h (induct initial kept run)

/-- A measure of single steps, summed over a history. -/
def total (measure : World → World → Nat) : List World → Nat
  | w' :: w :: past => measure w w' + total measure (w :: past)
  | _ => 0

/-- What is bounded in every step is bounded in every history. -/
theorem total_le {settings : Scheduler.Settings} {permits : Nat} {measure bound : World → World → Nat}
    (h : ∀ {w w' past}, Run settings permits (w :: past) → w.Step w' → measure w w' ≤ bound w w')
    {w : World} {past : List World} (run : Run settings permits (w :: past)) :
    total measure (w :: past) ≤ total bound (w :: past) := by
  induction run using Run.induct with
  | initial => exact (Nat.le_refl _)
  | kept run step ih => exact Nat.add_le_add (h run step) ih

end Run

end StreamBalancer
