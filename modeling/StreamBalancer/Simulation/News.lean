import StreamBalancer.Simulation

/-!
# StreamBalancer.Simulation.News

What an onlooker of a simulation sees from one look to the next: bytes and ends
of streams at clients and far ends, dials, and tunnels told to close.

1. A party that has vanished sees nothing.
2. Far ends that no client knows are summed up per origin.
3. Far ends are listed under their labels, also when the label is new.
-/

namespace StreamBalancer.Simulation

/-- What has reached one party. -/
structure Arrival where
  /-- The bytes. -/
  bytes : ByteArray
  /-- Whether the end of the stream came. -/
  ended : Bool
deriving Inhabited

/-- What has reached the unknown far ends of one origin. -/
structure Unknown where
  /-- How many of them something has reached. -/
  ends : Nat := 0
  /-- How many bytes. -/
  bytes : Nat := 0
  /-- How many ends of streams. -/
  finishes : Nat := 0
deriving Inhabited

/-- What is new since the last look. -/
structure News where
  /-- At clients, by number. -/
  clients : List (Nat × Arrival)
  /-- At far ends with a label. -/
  servers : List (String × Arrival)
  /-- At far ends without one, by the common label of their origin. -/
  unknown : List (String × Unknown)
  /-- The agents dialed, in byte order and as often as dialed. -/
  dialed : List String
  /-- The tunnels told to close, by number and as often as told. -/
  closed : List Nat
deriving Inhabited

/-- What has reached a party that is there, if anything has. -/
def arrival? (p : Peer) : Option Arrival :=
  if p.gone || !p.hasNews then none else some ⟨p.received, p.endedNow⟩

/-- Add what has reached one unknown far end. -/
def addUnknown (label : String) (a : Arrival) (sums : List (String × Unknown)) :
    List (String × Unknown) :=
  let old := (sums.lookup label).getD {}
  sums.filter (fun e => e.1 ≠ label) ++
    [(label, ⟨old.ends + 1, old.bytes + a.bytes.size, old.finishes + if a.ended then 1 else 0⟩)]

/-- The news of the unknown far ends. -/
def unknownNews (clients : List Client) : List (String × Unknown) :=
  clients.foldl
    (fun sums c =>
      match c.origin, c.label, arrival? c.splice.b with
      | some origin, none, some a => addUnknown origin.unknownLabel a sums
      | _, _, _ => sums)
    []

/-- How often each tunnel was told to close. -/
def closes (s : Simulation) : List Nat := s.scheduler.fleet.tunnels.toList.map Tunnel.closes

/-- The tunnels told to close since the last look. -/
def closedNow (s : Simulation) : List Nat :=
  (s.closes.zipIdx.map fun (n, t) => List.replicate (n - (s.closesSeen[t]?).getD 0) t).flatten

/-- Look at what is new, which then is no longer. -/
def look (s : Simulation) : News × Simulation :=
  let clients := s.clients.toList
  let atClient (e : Client × Nat) : Option (Nat × Arrival) :=
    (arrival? e.1.splice.a).map fun a => (e.2, a)
  let atServer (c : Client) : Option (String × Arrival) :=
    c.label.bind fun label => (arrival? c.splice.b).map fun a => (label, a)
  ({ clients := clients.zipIdx.filterMap atClient
     servers := clients.filterMap atServer
     unknown := unknownNews clients
     dialed := s.dialed.mergeSort fun x y => !(y < x)
     closed := s.closedNow },
    { s with
      clients := s.clients.map fun c => (c.modifyNear Peer.look).modifyFar Peer.look
      dialed := []
      closesSeen := s.closes })

/-- The dials that are out: the agents in byte order, each with the number of its
dials. -/
def dialing (s : Simulation) : List (String × Nat) :=
  let agents := (s.scheduler.sessions.filter Session.isDialing).map s.scheduler.agent
  (Addresses.ofList agents).map fun agent => (agent, agents.count agent)

end StreamBalancer.Simulation
