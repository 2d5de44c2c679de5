import StreamBalancer.Scheduler

/-!
# StreamBalancer.Scheduler.Events

What the scheduler does with each message.  Messages come in any order, so every
handler looks at the tables, the pool and the instance anew.

1. A request goes to the best instance of the pool, or waits if the pool is
   empty, or is refused if even the best instance is at the ceiling.
2. A report of a forward relieves its instance.  After a failed dial the instance
   leaves the pool and the request comes again.
3. A snapshot without a healthy address is ignored.  Otherwise the instances it
   does not name are given up, those it names are in the pool again, new
   addresses are added while there is room, and waiting requests are dispatched.
4. A report of a broken tunnel asks for a new one, unless the instance is no
   longer known, the slot has another tunnel by now, or it was asked already.
5. A tunnel for an instance no longer known is closed.  The first tunnel of an
   instance makes it schedulable.
-/

namespace StreamBalancer.Scheduler

/-! ## Requests -/

/-- Refuse a request. -/
def refuse (s : Scheduler) (request : Nat) : Scheduler := (s.count .rejected).drop request

/-- Count a dispatch to an instance and ask for the tunnels that it needs anew. -/
def checkTunnels (s : Scheduler) (b : Nat) : Scheduler :=
  match s.fleet.checkTunnels b s.settings.policy s.uptime with
  | (worn, fleet) => worn.foldl (fun s slot => s.requestSession b slot) { s with fleet }

/-- Give a request to an instance that was taken out of the pool, and put the
instance back. -/
def assign (s : Scheduler) (request b : Nat) : Scheduler :=
  ((((s.modifyBackend b Backend.begin).enlist b).checkTunnels b).showOngoing b).startForward request b

/-- Give a request to the best instance. -/
def dispatch (s : Scheduler) (request : Nat) : Scheduler :=
  match s.pool.pop s.less with
  | (none, _) => { s with pending := s.pending ++ [request] }
  | (some b, pool) =>
    let s := { s with pool }
    if s.settings.ceiling ≤ s.ongoing b then (s.enlist b).refuse request else s.assign request b

/-- A request arrives. -/
def onRequest (s : Scheduler) (request : Nat) : Scheduler :=
  if s.pool.isEmpty then { s with pending := s.pending ++ [request] } else s.dispatch request

/-- Dispatch at most so many waiting requests while the pool has instances. -/
def drainSome : Nat → Scheduler → Scheduler
  | 0, s => s
  | n + 1, s =>
    match s.pending with
    | [] => s
    | request :: rest =>
      if s.pool.isEmpty then s else drainSome n (({ s with pending := rest }).dispatch request)

/-- Dispatch waiting requests, the oldest first, while the pool has instances. -/
def drainPending (s : Scheduler) : Scheduler := drainSome s.pending.length s

/-! ## Reports of forwards -/

/-- A forward has ended. -/
def onFinished (s : Scheduler) (f : Finished) : Scheduler :=
  let s := ((s.modifyBackend f.backend Backend.finish).count (.requests f.outcome.verdict)).showOngoing
    f.backend
  match f.outcome with
  | .completed | .failed => s.resort f.backend
  | .dialFailed request => ((s.withdraw f.backend).count .rescheduled).onRequest request

/-! ## Snapshots -/

/-- Let an instance take requests. -/
def makeSchedulable (s : Scheduler) (b : Nat) : Scheduler :=
  { s.enlist b with schedulable := s.schedulable.insert (s.address b) b }

/-- Give up the instance under an address. -/
def removeBackend (s : Scheduler) (address : String) : Scheduler :=
  match s.tracked? address with
  | none => s
  | some b =>
    let s := { s with
      schedulable := s.schedulable.erase address
      connecting :=
        if s.schedulable.contains address then s.connecting else s.connecting.erase address }
    let s := s.withdraw b
    ({ s with fleet := s.fleet.retire b }).setOngoingGauge address 0

/-- Put the schedulable instance of an address back into the pool if it is not
there. -/
def revive (s : Scheduler) (address : String) : Scheduler :=
  match s.schedulable.find? address with
  | some b => if s.pool.contains b then s else s.enlist b
  | none => s

/-- Add an instance for an address, and ask for all its tunnels. -/
def addBackend (s : Scheduler) (address : String) : Scheduler :=
  let b := s.fleet.backends.size
  let s := { s with
    fleet := s.fleet.addBackend (.create address s.settings.tunnelCount s.nextWeight)
    nextWeight := s.nextWeight + 1 }
  if s.settings.tunnelCount = 0 then s.makeSchedulable b
  else
    let s := (List.range s.settings.tunnelCount).foldl (fun s slot => s.requestSession b slot) s
    { s with connecting := s.connecting.insert address b }

/-- Add an instance for an address if there is room. -/
def addIfRoom (s : Scheduler) (address : String) : Scheduler :=
  if s.settings.maxBackends ≤ s.trackedCount then s else s.addBackend address

/-- The known addresses that are not healthy. -/
def gone (s : Scheduler) (healthy : List String) : List String :=
  (s.schedulable.addresses ++ s.connecting.addresses).filter fun a => a ∉ healthy

/-- The healthy addresses that are not known. -/
def fresh (s : Scheduler) (healthy : List String) : List String :=
  healthy.filter fun a => (s.tracked? a).isNone

/-- Make the changes of a snapshot: removals, revivals and arrivals, each in the
order given, and then the dispatch of waiting requests. -/
def applySnapshot (s : Scheduler) (removals revivals arrivals : List String) : Scheduler :=
  (arrivals.foldl addIfRoom (revivals.foldl revive (removals.foldl removeBackend s))).drainPending

/-- A snapshot arrives.  New addresses are added in byte order. -/
def onSnapshot (s : Scheduler) (snapshot : Snapshot) : Scheduler :=
  let healthy := snapshot.healthy
  if healthy.isEmpty then s else s.applySnapshot (s.gone healthy) healthy (s.fresh healthy)

/-! ## Tunnels -/

/-- Whether a slot that exists holds a tunnel other than the given one. -/
def holdsAnother (s : Scheduler) (b slot tunnel : Nat) : Bool :=
  match (s.fleet.backend? b).bind fun x => x.tunnel? slot with
  | some current => current != tunnel
  | none => false

/-- A tunnel is reported broken. -/
def onFailure (s : Scheduler) (f : Failure) : Scheduler :=
  if !s.isCurrent f.backend || s.holdsAnother f.backend f.slot f.tunnel then s
  else
    match s.fleet.markReplacing f.backend f.slot with
    | (some true, fleet) => ({ s with fleet }).requestSession f.backend f.slot
    | (_, fleet) => { s with fleet }

/-- A tunnel is handed over. -/
def onHandover (s : Scheduler) (h : Handover) : Scheduler :=
  if !s.isCurrent h.backend then { s with fleet := s.fleet.close h.tunnel }
  else
    let s := { s with fleet := s.fleet.install h.backend h.slot h.tunnel }
    let address := s.address h.backend
    if s.connecting.contains address then
      (({ s with connecting := s.connecting.erase address }).makeSchedulable h.backend).drainPending
    else s

/-! ## Messages -/

/-- A message to the scheduler. -/
inductive Event where
  | request (request : Nat)
  | finished (report : Finished)
  | snapshot (snapshot : Snapshot)
  | failure (report : Failure)
  | handover (handover : Handover)
deriving DecidableEq, Repr

/-- Handle a message and publish the gauges. -/
def handle (s : Scheduler) (e : Event) : Scheduler :=
  (match e with
    | .request r => s.onRequest r
    | .finished f => s.onFinished f
    | .snapshot x => s.onSnapshot x
    | .failure f => s.onFailure f
    | .handover h => s.onHandover h).publishGauges

/-- The next message, of reports of broken tunnels first, then tunnels handed
over, reports of forwards, snapshots and requests. -/
def receive? (s : Scheduler) : Option (Event × Scheduler) :=
  match s.fleet.failures with
  | f :: rest => some (.failure f, { s with fleet := { s.fleet with failures := rest } })
  | [] =>
    match s.handovers with
    | h :: rest => some (.handover h, { s with handovers := rest })
    | [] =>
      match s.outcomes with
      | f :: rest => some (.finished f, { s with outcomes := rest })
      | [] =>
        match s.snapshots with
        | x :: rest => some (.snapshot x, { s with snapshots := rest })
        | [] =>
          match s.jobs with
          | r :: rest => some (.request r, { s with jobs := rest })
          | [] => none

/-- Number of messages that were not handled. -/
def unread (s : Scheduler) : Nat :=
  s.fleet.failures.length + s.handovers.length + s.outcomes.length + s.snapshots.length +
    s.jobs.length

/-- Handle at most so many messages. -/
def handleSome : Nat → Scheduler → Scheduler
  | 0, s => s
  | n + 1, s =>
    match s.receive? with
    | some (e, s) => handleSome n (s.handle e)
    | none => s

/-- Handle all messages.  Handling one sends no other. -/
def handleAll (s : Scheduler) : Scheduler := handleSome s.unread s

/-! ## Arrival and shutdown -/

/-- Accept a request if there is a permit for it. -/
def accept? (s : Scheduler) (request : Nat) : Option Scheduler :=
  if s.permits = 0 then none
  else some { s with permits := s.permits - 1, jobs := s.jobs ++ [request] }

/-- Signal shutdown. -/
def signal (s : Scheduler) : Scheduler := { s with signalled := true }

/-- Give up all instances and all waiting requests. -/
def tearDown (s : Scheduler) : Scheduler :=
  let s := (s.schedulable.addresses ++ s.connecting.addresses).foldl removeBackend s
  ({ s.pending.foldl drop s with pending := [] }).publishGauges

/-- Give up what was sent to the scheduler and not handled.  Requests are dropped;
tunnels that were handed over are let go as they are. -/
def discardMessages (s : Scheduler) : Scheduler :=
  let requests := s.outcomes.filterMap (fun f => f.outcome.request?) ++ s.jobs
  { requests.foldl drop s with
    outcomes := []
    jobs := []
    snapshots := []
    handovers := []
    fleet := { s.fleet with failures := [] } }

/-- The end of the scheduler. -/
def stop (s : Scheduler) : Scheduler := { s.tearDown.discardMessages with stopped := true }

end StreamBalancer.Scheduler
