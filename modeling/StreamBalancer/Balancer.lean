import StreamBalancer.Admin
import StreamBalancer.Config.Load
import StreamBalancer.Health.Monitor
import StreamBalancer.InFlight
import StreamBalancer.Net.Listeners
import StreamBalancer.Simulation.News
import StreamBalancer.Startup

/-!
# StreamBalancer.Balancer

A whole balancer in its network: listeners, scheduler, health monitor, admin
interface and the watched configuration file.

1. Clients come in through the listeners.  Those for whom there is no permit wait
   in front of the scheduler, which does not know of them.
2. The monitor probes the network, and its snapshots go to the scheduler.
3. When the configuration file changes and can be used, its list of backends goes
   to the monitor; nothing else of it counts.
4. A stop ends listeners, admin interface and monitor, and then the scheduler.
   Forwards in flight go on, and a shutdown waits for them.

A client's number is also the number of its connection.
-/

namespace StreamBalancer

/-- A balancer in its network. -/
structure Balancer where
  /-- The scheduler, the services, the agents and the clients. -/
  network : Simulation
  /-- The health monitor. -/
  monitor : Monitor
  /-- The accept loops. -/
  listeners : Listeners
  /-- The endpoints that were bound, by the number of the listener. -/
  endpoints : List ListenAddress
  /-- What is bound. -/
  bound : Bound
  /-- The address of the admin interface, as long as it is there. -/
  admin : Option String
  /-- The key of the admin interface. -/
  adminKey : String
  /-- What probes meet with when somebody listens at some addresses. -/
  outside : List String → Surroundings
  /-- The clients that came through a socket file. -/
  localClients : List Nat := []
  /-- Whether a shutdown has been completed. -/
  finished : Bool := false
deriving Inhabited

namespace Balancer

/-! ## Start -/

/-- Most requests that wait for the scheduler to take them. -/
def queueCapacity : Nat := 1024

/-- Start a balancer among services and agents. -/
def start (c : Config) (file : WatchedFile) (folder : String) (services : List String)
    (agents : List (String × ListenAddress)) (outside : List String → Surroundings) :
    Except Startup.Failure Balancer :=
  let taken : Bound := { addresses := services ++ agents.map Prod.fst, files := [folder] }
  (Startup.run (.inFolder folder) c file taken).map fun s =>
    { network := { scheduler := s.scheduler, dialMode := .network, services, agents }
      monitor := s.monitor
      listeners := .ofAddresses s.endpoints
      endpoints := s.endpoints
      bound := s.bound
      admin := s.admin?
      adminKey := c.admin.apiKey
      outside }

/-- Whether it has been stopped. -/
def isStopped (s : Balancer) : Bool := s.network.scheduler.stopped

/-! ## The parts at work -/

/-- The addresses at which somebody listens. -/
def peers (s : Balancer) : List String := s.network.services ++ s.network.agents.map Prod.fst

/-- Let the monitor go on, and send its snapshots. -/
def monitorHealth (s : Balancer) : Balancer :=
  match s.monitor.drain (s.monitor.probe.answering (s.outside s.peers) s.monitor.timeout) with
  | (snapshots, monitor) =>
    { s with
      monitor
      network := snapshots.foldl (fun network x => (network.sendSnapshot x).2) s.network }

/-- The permits and the queue of the scheduler, as the listeners see them. -/
def entrance (s : Balancer) : Entrance :=
  { permits := s.network.scheduler.permits
    capacity := queueCapacity
    queue := s.network.scheduler.jobs
    isRead := !s.isStopped
    now := s.network.scheduler.now }

/-- Take over what the listeners have done to permits, queue and connections. -/
def leaveEntrance (s : Balancer) (g : Entrance) : Balancer :=
  let network := { s.network with
    scheduler := { s.network.scheduler with permits := g.permits, jobs := g.queue } }
  { s with
    network := g.closed.foldl
      (fun network c => network.modifyClient c fun x => x.modifyNear Peer.release) network }

/-- Let the listeners go on. -/
def acceptClients (s : Balancer) : Balancer :=
  match s.listeners.settle s.entrance with
  | (listeners, g) => { s with listeners }.leaveEntrance g

/-- Whether a listener can go on. -/
def canAccept (s : Balancer) : Bool := (s.listeners.step? s.entrance).isSome

/-- Let the listeners and then the scheduler go on. -/
def round (s : Balancer) : Balancer :=
  let s := s.acceptClients
  { s with network := s.network.settle }

/-- At most so many rounds, until the listeners wait. -/
def rounds : Nat → Balancer → Balancer
  | 0, s => s
  | n + 1, s =>
    let s := s.round
    if s.canAccept then rounds n s else s

/-- Let everything happen that needs no time.  In each round but the last a client
gets a permit. -/
def settle (s : Balancer) : Balancer := rounds (s.network.clients.size + 1) s.monitorHealth

/-! ## Clients and services -/

/-- A client connects to a listener, and is told whether that was possible. -/
def connect (s : Balancer) (listener : Nat) : Bool × Balancer :=
  let client : Simulation.Client := {}
  match s.listeners.connect listener s.network.clients.size with
  | (connected, listeners) =>
    let client := if connected then client else client.modifyNear Peer.vanish
    (connected, { s with
      listeners
      network := { s.network with clients := s.network.clients.push client }
      localClients :=
        (match s.endpoints[listener]? with
          | some (.unix _) => [s.network.clients.size]
          | _ => []) ++ s.localClients })

/-- Whether bytes that a client sends seem to be taken although the balancer has let
its connection go.  A TCP connection takes such bytes once, unless the client was
told before by bytes that nobody read. -/
def takesInVain (s : Balancer) (c : Nat) : Bool :=
  match s.network.client? c with
  | none => false
  | some client =>
    let p := client.splice.a
    !s.localClients.contains c && !p.finished && !p.wasted && p.unread.isEmpty

/-- A client sends, `none` if it is not connected.  The answer tells whether that
was possible. -/
def clientSend (s : Balancer) (c : Nat) (data : ByteArray) : Option Bool × Balancer :=
  match s.network.clientSend c data with
  | (some false, network) =>
    (some (s.takesInVain c),
      { s with network := network.modifyClient c fun x =>
          x.modifyNear fun p => { p with wasted := true } })
  | (answer, network) => (answer, { s with network })

/-- Whether the balancer itself or an agent is at an address. -/
def isTaken (s : Balancer) (address : String) : Bool :=
  s.listeners.running.contains (.tcp address) || s.admin == some address ||
    (s.network.agents.lookup address).isSome

/-- Start or stop a service, and tell whether that is a change. -/
def setService (s : Balancer) (address : String) (on : Bool) : Bool × Balancer :=
  if s.isTaken address then (false, s)
  else
    match s.network.setService address on with
    | (changed, network) => (changed, { s with network })

/-! ## From outside -/

/-- Answer a request to the admin interface, `none` if it is not there. -/
def askAdmin (s : Balancer) (r : Admin.Request) : Option Admin.Response × Balancer :=
  match s.admin with
  | none => (none, s)
  | some _ =>
    match s.network.scheduler.queryStats with
    | (stats, scheduler) =>
      (some (Admin.respond s.adminKey stats r),
        { s with network := { s.network with scheduler } })

/-- The configuration file gets new content. -/
def changeFile (s : Balancer) (content : ByteArray) : Balancer :=
  match s.monitor.takesLists, Config.load (some content) with
  | true, .ok c => { s with monitor := (s.monitor.sendList c.backends).2 }
  | _, _ => s

/-- Move the clock. -/
def advance (s : Balancer) (ms : Nat) : Balancer :=
  { s with network := s.network.advance ms, monitor := s.monitor.advance ms }

/-- End the listeners.  The connections that were not accepted are cut off. -/
def endListeners (s : Balancer) : Balancer :=
  match s.listeners.finish s.entrance s.bound with
  | (listeners, g, bound) =>
    let left := { s with listeners, bound }.leaveEntrance g
    { left with
      network := s.listeners.backlog.foldl
        (fun network c => network.modifyClient c fun x =>
          x.modifyNear fun p => { p with wasted := true })
        left.network }

/-- End the admin interface. -/
def endAdmin (s : Balancer) : Balancer :=
  match s.admin with
  | none => s
  | some address => { s with admin := none, bound := s.bound.release (.tcp address) }

/-- Stop everything but the forwards in flight. -/
def stop (s : Balancer) : Balancer :=
  if s.isStopped then s
  else
    let s := s.endListeners.endAdmin
    { s with
      network := s.network.shutdown.2
      monitor := (s.monitor.signal.2.closeChannel).2 }

/-- Stop and wait for the forwards in flight, at most so many milliseconds.  The
answer tells whether none is left; a second shutdown has none. -/
def shutdown (s : Balancer) (drainTime : Nat) : Option Bool × Balancer :=
  if s.finished then (none, s)
  else
    let s := s.stop.settle
    let inFlight : InFlight := { active := s.network.scheduler.inFlight.toUInt64 }
    (some (inFlight.drain drainTime).1.drained, { s with finished := true })

/-! ## Looking at it -/

/-- Look at what is new at clients and far ends, which then is no longer. -/
def look (s : Balancer) : Simulation.News × Balancer :=
  match s.network.look with
  | (news, network) => (news, { s with network })

/-- The scheduler's state, nothing once it is stopped. -/
def queryStats (s : Balancer) : Option Stats × Balancer :=
  match s.network.scheduler.queryStats with
  | (stats, scheduler) => (stats, { s with network := { s.network with scheduler } })

end Balancer

end StreamBalancer
