import StreamBalancer.Net.Bind
import StreamBalancer.Net.Listener

/-!
# StreamBalancer.Net.ListenerBench

One listener worked by hand: clients connect and hang up, and requests are taken
out of its queue, held and let go.
-/

namespace StreamBalancer

/-- A listener on the bench. -/
structure ListenerBench where
  /-- The listener. -/
  listener : Listener
  /-- Its permits and its queue. -/
  entrance : Entrance
  /-- The folder for socket files. -/
  folder : String
  /-- What is bound. -/
  bound : Bound
  /-- The clients: whether each is connected. -/
  peers : Array Bool := #[]
  /-- The requests taken, as long as they are held. -/
  held : Array (Option Nat) := #[]
deriving Repr, Inhabited

namespace ListenerBench

/-- Bind a listener. -/
def bind (address : ListenAddress) (permits capacity : Nat) (folder : String) :
    Except BindError ListenerBench :=
  match (Binding.inFolder folder).bind { files := [folder] } address with
  | .error cause => .error { address, cause }
  | .ok (address, bound) =>
    .ok { listener := { address }, entrance := { permits, capacity }, folder, bound }

/-- Let the loop go on; when it has ended, its endpoint is released. -/
def settle (s : ListenerBench) : ListenerBench :=
  match s.listener.settle s.entrance with
  | (listener, entrance) =>
    { s with
      listener
      entrance
      bound :=
        if s.listener.isRunning && !listener.isRunning then s.bound.release listener.address
        else s.bound }

/-- A client connects, and is told whether somebody listened. -/
def connect (s : ListenerBench) : Bool × ListenerBench :=
  match s.listener.connect s.peers.size with
  | (connected, listener) =>
    (connected, { s with listener, peers := s.peers.push connected })

/-- Clients connect; the number of those that succeed is given. -/
def connectAll : Nat → ListenerBench → Nat × ListenerBench
  | 0, s => (0, s)
  | n + 1, s =>
    match s.connect with
    | (connected, s) =>
      match connectAll n s with
      | (count, s) => (count + (if connected then 1 else 0), s)

/-- Take a request out of the queue and hold it. -/
def take (s : ListenerBench) : Option String × ListenerBench :=
  if !s.entrance.isRead then (none, s)
  else
    match s.entrance.take with
    | none => (none, s)
    | some (connection, entrance) =>
      (some s.listener.peerLabel, { s with entrance, held := s.held.push (some connection) }.settle)

/-- Take so many requests. -/
def takeAll : Nat → ListenerBench → List (Option String) × ListenerBench
  | 0, s => ([], s)
  | n + 1, s =>
    match s.take with
    | (label, s) =>
      match takeAll n s with
      | (labels, s) => (label :: labels, s)

/-- Let a held request go; false if it is not held. -/
def release (s : ListenerBench) (i : Nat) : Bool × ListenerBench :=
  match s.held[i]?.join with
  | none => (false, s)
  | some connection =>
    (true,
      { s with
        held := s.held.setIfInBounds i none
        entrance := s.entrance.drop connection })

/-- A client hangs up; false if it is not connected. -/
def hangUp (s : ListenerBench) (i : Nat) : Bool × ListenerBench :=
  (s.peers[i]?.getD false, { s with peers := s.peers.setIfInBounds i false })

/-- The reader of the queue goes away; false if it is gone. -/
def abandon (s : ListenerBench) : Bool × ListenerBench :=
  (s.entrance.isRead, { s with entrance := s.entrance.abandon })

/-- Try to bind a second listener, which would be released at once. -/
def bindAgain (s : ListenerBench) : Option BindError :=
  match (Binding.inFolder s.folder).bind s.bound s.listener.address with
  | .ok _ => none
  | .error cause => some { address := s.listener.address, cause }

/-- Ask the loop to stop; false if it has ended. -/
def signal (s : ListenerBench) : Bool × ListenerBench :=
  match s.listener.signal with
  | (running, listener) => (running, { s with listener })

/-- For each client whether it has been hung up on, `none` if it is not connected. -/
def closedPeers (s : ListenerBench) : List (Option Bool) :=
  s.peers.toList.zipIdx.map fun (connected, i) =>
    if connected then some (s.entrance.closed.contains i) else none

/-- Whether the socket file exists, `none` without one. -/
def socketFile (s : ListenerBench) : Option Bool :=
  match s.listener.address with
  | .tcp _ => none
  | .unix path => some (s.bound.files.contains path)

end ListenerBench

end StreamBalancer
