import StreamBalancer.Net.Origin
import StreamBalancer.Net.Splice
import StreamBalancer.Scheduler.Events
import StreamBalancer.Scheduler.Stats
import StreamBalancer.Scheduler.Work

/-!
# StreamBalancer.Simulation

A scheduler at work in a small network: services that listen and greet, agents
that serve tunnels, clients with their connections, and a clock that moves only
when it is told to.

After every change the simulation settles: the scheduler handles all messages,
then sessions and forwards go on in the order in which they came to wait, until
no message is left.  Requests dispatched together are therefore all dispatched
before the outcome of any is handled, and outcomes are handled in the order of
dispatch.

A client's number is also the number of its request.  What a far end sends first
is its greeting, which names its label.  Labels are counted by what clients have
read, so until then the greeting carries a placeholder of the same length.
-/

namespace StreamBalancer

/-- How the dials of agents are answered. -/
inductive DialMode where
  /-- One by one, on demand. -/
  | manual
  /-- At once, each with a new tunnel. -/
  | auto
  /-- At once, each with an error. -/
  | refuse
  /-- By the agents of the network. -/
  | network
deriving DecidableEq, Repr, Inhabited

namespace Simulation

/-- A client with its connection and, as soon as there is one, its route. -/
structure Client where
  /-- The client on side `a`, the far end of its route on side `b`. -/
  splice : Splice := {}
  /-- Where the route leads. -/
  origin : Option Origin := none
  /-- The label of the far end, once the client has read it. -/
  label : Option String := none
deriving Inhabited

namespace Client

/-- Change the client's side. -/
def modifyNear (c : Client) (change : Peer → Peer) : Client :=
  { c with splice := { c.splice with a := change c.splice.a } }

/-- Change the far end. -/
def modifyFar (c : Client) (change : Peer → Peer) : Client :=
  { c with splice := { c.splice with b := change c.splice.b } }

/-- Whether the client is known and has not vanished. -/
def isPresent (c : Client) : Bool := !c.splice.a.gone

/-- Whether the far end is known by its label and has not vanished. -/
def farIsKnown (c : Client) : Bool := c.label.isSome && !c.splice.b.gone

end Client

end Simulation

/-- A scheduler in a small network. -/
structure Simulation where
  /-- The scheduler and its helpers. -/
  scheduler : Scheduler
  /-- How dials are answered. -/
  dialMode : DialMode := .manual
  /-- The addresses of the services that listen. -/
  services : List String := []
  /-- The addresses of the agents, with what they dial for each stream. -/
  agents : List (String × ListenAddress) := []
  /-- The clients, by number. -/
  clients : Array Simulation.Client := #[]
  /-- The labels given out. -/
  labels : LabelCounts := {}
  /-- The agents dialed since the last look. -/
  dialed : List String := []
  /-- How often each tunnel had been told to close at the last look. -/
  closesSeen : List Nat := []
deriving Inhabited

namespace Simulation

/-! ## Parts -/

/-- Whether something accepts connections at an address. -/
def reaches (s : Simulation) : ListenAddress → Bool
  | .tcp address => s.services.contains address || (s.agents.lookup address).isSome
  | .unix _ => false

/-- The client with a number. -/
def client? (s : Simulation) (c : Nat) : Option Client := s.clients[c]?

/-- Change a client. -/
def modifyClient (s : Simulation) (c : Nat) (change : Client → Client) : Simulation :=
  { s with clients := s.clients.modify c change }

/-! ## Sessions -/

/-- Answer a dial that a session has just started. -/
def answerDial (s : Simulation) (x : Session) : Simulation :=
  let agent := s.scheduler.agent x
  let s := { s with dialed := s.dialed ++ [agent] }
  let succeed (t : Tunnel) : Simulation :=
    { s with scheduler := s.scheduler.dialSucceeded x.number t }
  let fail : Simulation := { s with scheduler := s.scheduler.dialFailed x.number 0 }
  match s.dialMode with
  | .manual => s
  | .auto => succeed {}
  | .refuse => fail
  | .network =>
    match s.agents.lookup agent with
    | some target => succeed (.dialed target)
    | none => fail

/-- Take at most so many steps of a session, and tell whether there was one. -/
def stepSession : Nat → Bool → Simulation → Nat → Bool × Simulation
  | 0, moved, s, _ => (moved, s)
  | n + 1, moved, s, number =>
    match s.scheduler.stepSession? 0 number with
    | none => (moved, s)
    | some scheduler =>
      let s := { s with scheduler }
      match scheduler.session? number with
      | none => (true, s)
      | some x => stepSession n true (if x.isDialing then s.answerDial x else s) number

/-- Run a session until it waits or is over.  One that has moved waits behind the
others. -/
def runSession (s : Simulation) (number : Nat) : Simulation :=
  match stepSession 8 false s number with
  | (false, s) => s
  | (true, s) =>
    let mine (x : Session) : Bool := x.number == number
    { s with scheduler := { s.scheduler with
      sessions := s.scheduler.sessions.filter (fun x => !mine x) ++ s.scheduler.sessions.filter mine } }

/-- Run all sessions. -/
def runSessions (s : Simulation) : Simulation :=
  (s.scheduler.sessions.map Session.number).foldl runSession s

/-! ## Forwards -/

/-- The route's origin. -/
def originOf (s : Simulation) (b : Nat) : Route → Origin
  | .direct => .service (s.scheduler.address b)
  | .stream t => .ofStream t (s.scheduler.fleet.tunnels[t]?.getD {})

/-- What a forward's far end is and sends first. -/
def attach (s : Simulation) (request : Nat) (origin : Origin) : Simulation :=
  s.modifyClient request fun c =>
    if c.origin.isSome then c
    else
      { (c.modifyFar fun p => p.send (Origin.greeting origin.unknownLabel).toUTF8) with
        origin := some origin }

/-- Copy the bytes of a request whose forward has a route, and end the forward
when the splice is over. -/
def pump (s : Simulation) (request : Nat) : Simulation :=
  let s := s.modifyClient request fun c => { c with splice := c.splice.pump }
  match s.client? request with
  | none => s
  | some c =>
    let finish (moved : Option (Nat × Nat)) : Simulation :=
      { s with scheduler := s.scheduler.endSplice request moved }
    match c.splice.status with
    | .running => s
    | .complete => finish (some (c.splice.back.moved, c.splice.forth.moved))
    | .failed => finish none

/-- Take at most so many steps of a forward, and tell whether there was one. -/
def stepForward : Nat → Bool → Simulation → Nat → Bool × Simulation
  | 0, moved, s, _ => (moved, s)
  | n + 1, moved, s, request =>
    match s.scheduler.stepForward? s.reaches request with
    | none => (moved, s)
    | some scheduler => stepForward n true { s with scheduler } request

/-- The route of a request's forward, if it has one. -/
def splicing? (s : Simulation) (request : Nat) : Option (Nat × Route) :=
  match s.scheduler.forward? request with
  | some ⟨_, b, .splicing route⟩ => some (b, route)
  | _ => none

/-- Number of steps that no forward exceeds: those of its search and four more. -/
def forwardSteps (s : Simulation) : Nat := 5 * s.scheduler.settings.tunnelCount + 10

/-- Run a forward until it waits or is over.  One that has moved waits behind the
others. -/
def runForward (s : Simulation) (request : Nat) : Simulation :=
  match stepForward s.forwardSteps false s request with
  | (moved, s) =>
    let s := match s.splicing? request with
      | some (b, route) =>
        let s := (s.attach request (s.originOf b route)).pump request
        (stepForward s.forwardSteps false s request).2
      | none => s
    if moved then
      let mine (f : Forward) : Bool := f.request == request
      { s with scheduler := { s.scheduler with
        forwards := s.scheduler.forwards.filter (fun f => !mine f) ++ s.scheduler.forwards.filter mine } }
    else s

/-- Run all forwards. -/
def runForwards (s : Simulation) : Simulation :=
  (s.scheduler.forwards.map Forward.request).foldl runForward s

/-! ## Settling -/

/-- Hang up on the clients whose requests were dropped. -/
def hangUp (s : Simulation) : Simulation :=
  s.scheduler.dropped.foldl (fun s r => s.modifyClient r fun c => c.modifyNear Peer.release)
    { s with scheduler := { s.scheduler with dropped := [] } }

/-- Let the scheduler handle its messages and then everybody else go on. -/
def round (s : Simulation) : Simulation :=
  { s with scheduler := s.scheduler.handleAll }.runSessions.runForwards.hangUp

/-- At most so many rounds, until no message is left. -/
def rounds : Nat → Simulation → Simulation
  | 0, s => s
  | n + 1, s =>
    let s := s.round
    if s.scheduler.unread = 0 then s else rounds n s

/-- A number of rounds that is enough wherever settling comes to an end: in each a
dial fails or a request ends. -/
def roundLimit (s : Simulation) : Nat :=
  1000 + (s.clients.size + 1) * (s.scheduler.fleet.backends.size + s.scheduler.settings.maxBackends)

/-- Give labels to the far ends whose greetings were read, by client number. -/
def label (s : Simulation) (c : Nat) : Simulation :=
  match s.client? c with
  | none => s
  | some client =>
    match client.origin, client.label with
    | some origin, none =>
      let placeholder := (Origin.greeting origin.unknownLabel).toUTF8
      if client.splice.a.received.size < placeholder.size then s
      else
        match s.labels.next origin with
        | (label, labels) =>
          { s with labels }.modifyClient c fun x =>
            { (x.modifyNear fun p =>
                { p with received :=
                    (Origin.greeting label).toUTF8 ++
                      p.received.extract placeholder.size p.received.size }) with
              label := some label }
    | _, _ => s

/-- Let everything happen that needs no time. -/
def settle (s : Simulation) : Simulation :=
  let s := rounds s.roundLimit s
  (List.range s.clients.size).foldl label s

/-! ## Changes -/

/-- Start or stop a service, and tell whether that is a change. -/
def setService (s : Simulation) (address : String) (on : Bool) : Bool × Simulation :=
  (s.services.contains address != on,
    { s with services := (if on then [address] else []) ++ s.services.filter (· ≠ address) })

/-- Send a snapshot, and tell whether the scheduler still takes it. -/
def sendSnapshot (s : Simulation) (snapshot : Snapshot) : Bool × Simulation :=
  if s.scheduler.stopped then (false, s)
  else
    (true, { s with scheduler := { s.scheduler with snapshots := s.scheduler.snapshots ++ [snapshot] } })

/-- What becomes of a new client. -/
inductive Admission where
  /-- Its request was submitted. -/
  | accepted (client : Nat)
  /-- There is no permit for it. -/
  | limit
  /-- The scheduler is gone. -/
  | stopped
deriving DecidableEq, Repr

/-- A client connects. -/
def connect (s : Simulation) : Admission × Simulation :=
  match s.scheduler.accept? s.clients.size with
  | none => (.limit, s)
  | some scheduler =>
    if s.scheduler.stopped then (.stopped, s)
    else (.accepted s.clients.size, { s with scheduler, clients := s.clients.push {} })

/-- Clients connect at once. -/
def connectAll : Nat → Simulation → List Admission × Simulation
  | 0, s => ([], s)
  | n + 1, s =>
    match s.connect with
    | (admission, s) =>
      match connectAll n s with
      | (rest, s) => (admission :: rest, s)

/-- A client sends, `none` if there is no such client.  The answer tells whether
that was possible. -/
def clientSend (s : Simulation) (c : Nat) (data : ByteArray) : Option Bool × Simulation :=
  match s.client? c with
  | none => (none, s)
  | some client =>
    if !client.isPresent then (none, s)
    else if client.splice.a.canSend then
      (some true, s.modifyClient c fun x => x.modifyNear fun p => p.send data)
    else (some false, s)

/-- Change a client that is present, and tell whether it is. -/
def changeClient (s : Simulation) (c : Nat) (change : Peer → Peer) : Bool × Simulation :=
  if ((s.client? c).map Client.isPresent).getD false then
    (true, s.modifyClient c fun x => x.modifyNear change)
  else (false, s)

/-- The far end of a client sends, `none` if it is not known.  A service's
connection takes one sending after it was let go. -/
def serverSend (s : Simulation) (c : Nat) (data : ByteArray) : Option Bool × Simulation :=
  match s.client? c with
  | none => (none, s)
  | some client =>
    let far := client.splice.b
    if !client.farIsKnown then (none, s)
    else if far.canSend then (some true, s.modifyClient c fun x => x.modifyFar fun p => p.send data)
    else
      match client.origin with
      | some (.service _) =>
        if far.finished || far.wasted then (some false, s)
        else (some true, s.modifyClient c fun x => x.modifyFar fun p => { p with wasted := true })
      | _ => (some false, s)

/-- The far end of a client shuts down its sending side; false if it is not known. -/
def serverFinish (s : Simulation) (c : Nat) : Bool × Simulation :=
  if ((s.client? c).map Client.farIsKnown).getD false then
    (true, s.modifyClient c fun x => x.modifyFar Peer.finish)
  else (false, s)

/-- The far end of a client vanishes; false if it is not known.  A service breaks
its connection off. -/
def serverVanish (s : Simulation) (c : Nat) : Bool × Simulation :=
  if ((s.client? c).map Client.farIsKnown).getD false then
    (true, s.modifyClient c fun x => x.modifyFar fun p =>
      match x.origin with
      | some (.service _) => p.breakOff
      | _ => p.vanish)
  else (false, s)

/-- The session with the oldest dial to an agent. -/
def oldestDial (s : Simulation) (agent : String) : Option Session :=
  s.scheduler.sessions.find? fun x => x.isDialing && s.scheduler.agent x == agent

/-- Answer the oldest dial to an agent with a tunnel, whose number is given. -/
def acceptDial (s : Simulation) (agent : String) (t : Tunnel) : Option Nat × Simulation :=
  match s.oldestDial agent with
  | none => (none, s)
  | some x =>
    (some s.scheduler.fleet.tunnels.size,
      { s with scheduler := s.scheduler.dialSucceeded x.number t })

/-- Refuse the oldest dial to an agent, and tell whether there was one. -/
def refuseDial (s : Simulation) (agent : String) : Bool × Simulation :=
  match s.oldestDial agent with
  | none => (false, s)
  | some x => (true, { s with scheduler := s.scheduler.dialFailed x.number 0 })

/-- Change a tunnel's next id, if one is given, and its answer, and tell whether
there is such a tunnel. -/
def setTunnel (s : Simulation) (t : Nat) (answer : Option StreamAnswer) (nextId : Option UInt32) :
    Bool × Simulation :=
  (t < s.scheduler.fleet.tunnels.size,
    { s with scheduler := { s.scheduler with
      fleet := s.scheduler.fleet.modifyTunnel t fun tunnel =>
        { tunnel with nextId := nextId.getD tunnel.nextId, answer := answer.getD tunnel.answer } } })

/-- Move the clock. -/
def advance (s : Simulation) (ms : Nat) : Simulation :=
  { s with scheduler := { s.scheduler with now := s.scheduler.now + ms } }

/-- Signal shutdown and let the scheduler end.  False if that was done before. -/
def shutdown (s : Simulation) : Bool × Simulation :=
  if s.scheduler.stopped then (false, s)
  else (true, { s with scheduler := s.scheduler.signal.stop })

end Simulation

end StreamBalancer
