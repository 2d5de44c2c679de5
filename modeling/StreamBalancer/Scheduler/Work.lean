import StreamBalancer.Scheduler

/-!
# StreamBalancer.Scheduler.Work

The steps of the scheduler's helpers.  A session or a forward acts on its own;
what it has to say to the scheduler it sends as a message, and once the scheduler
is gone nobody takes the message: a tunnel is then closed by the session that
holds it, and a request that was handed back is dropped.
-/

namespace StreamBalancer.Scheduler

/-! ## Sessions -/

/-- Hand a tunnel over. -/
def handOver (s : Scheduler) (h : Handover) : Scheduler :=
  if s.stopped then { s with fleet := s.fleet.close h.tunnel }
  else { s with handovers := s.handovers ++ [h] }

/-- A dial of a session gave a tunnel. -/
def dialSucceeded (s : Scheduler) (number : Nat) (tunnel : Tunnel) : Scheduler :=
  let t := s.fleet.tunnels.size
  ({ s with fleet := s.fleet.addTunnel tunnel }.count (.sessions .established)).modifySession number
    fun x => { x with stage := .established t }

/-- A dial of a session gave an error or no answer in time. -/
def dialFailed (s : Scheduler) (number draw : Nat) : Scheduler :=
  (s.count (.sessions .failed)).modifySession number (Session.retry s.settings.session s.now draw)

/-- The next step that a session takes on its own, `none` if it has to wait.  The
draw selects the random part of a delay, and whether a session that is about to
dial listens for shutdown first. -/
def stepSession? (s : Scheduler) (draw number : Nat) : Option Scheduler :=
  match s.session? number with
  | none => none
  | some x =>
    match x.stage with
    | .established t => some ((s.removeSession number).handOver ⟨x.backend, x.slot, t⟩)
    | .idle =>
      if s.isRetired x.backend then some (s.removeSession number)
      else some (s.modifySession number fun x => { x with stage := .retained })
    | .retained =>
      if s.signalled then some (s.removeSession number)
      else some (s.modifySession number fun x => { x with stage := .cleared })
    | .cleared =>
      if s.signalled && draw % 2 == 1 then some (s.removeSession number)
      else some (s.modifySession number fun x => { x with stage := .dialing s.now })
    | .dialing _ =>
      if s.signalled then some (s.removeSession number)
      else if x.timedOut s.settings.session s.now then some (s.dialFailed number draw)
      else none
    | .waiting wakeup =>
      if s.signalled then some (s.removeSession number)
      else if wakeup ≤ s.now then some (s.modifySession number fun x => { x with stage := .idle })
      else none

/-- The address that a session dials. -/
def agent (s : Scheduler) (x : Session) : String :=
  agentAddress (s.address x.backend) s.settings.session.agentPort

/-! ## Forwards -/

/-- Report how a forward ended. -/
def report (s : Scheduler) (f : Finished) : Scheduler :=
  if s.stopped then
    match f.outcome.request? with
    | some request => s.drop request
    | none => s
  else { s with outcomes := s.outcomes ++ [f] }

/-- The next step that a forward takes on its own, `none` if it has to wait.
`reach` tells which addresses can be dialed. -/
def stepForward? (reach : ListenAddress → Bool) (s : Scheduler) (request : Nat) :
    Option Scheduler :=
  match s.forward? request with
  | none => none
  | some f =>
    match f.stage with
    | .starting => some (s.setForward request (.opening (Opening.begin s.fleet f.backend)))
    | .opening search =>
      match search.phase with
      | .found route => some (s.setForward request (.splicing route))
      | .unreachable => some (s.setForward request (.ended (.dialFailed request)))
      | _ =>
        (search.step? reach s.fleet).map fun (search, fleet) =>
          ({ s with fleet }).setForward request (.opening search)
    | .splicing _ => none
    | .ended outcome =>
      some ({ s with inFlight := s.inFlight - 1 }.setForward request (.reporting outcome))
    | .reporting outcome => some ((s.removeForward request).report ⟨f.backend, outcome⟩)

/-- The splice of a request is over.  If both streams came to their end, the bytes
`received` from the backend and those `sent` to it are credited. -/
def endSplice (s : Scheduler) (request : Nat) (moved : Option (Nat × Nat)) : Scheduler :=
  match s.forward? request with
  | none => s
  | some f =>
    match moved with
    | some (received, sent) =>
      let fleet := s.fleet.modifyBackend f.backend fun b =>
        b.credit received.toUInt64 sent.toUInt64
      let metrics := (fleet.metrics.add (.bytes .received) received).add (.bytes .sent) sent
      ({ s with fleet := { fleet with metrics } }.returnPermit).setForward request (.ended .completed)
    | none => s.returnPermit.setForward request (.ended .failed)

end StreamBalancer.Scheduler
