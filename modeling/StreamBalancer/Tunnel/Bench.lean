import StreamBalancer.Net.Origin
import StreamBalancer.Net.Splice
import StreamBalancer.Tunnel

/-!
# StreamBalancer.Tunnel.Bench

Tunnels worked by hand: tunnels dialed to agents that relay streams to services,
and the streams opened through these.

A tunnel comes up with a ping, which takes its first stream id.  The streams of a
closed tunnel go on.  Which agents and services there are is not known here
(`TunnelBench.Network`).
-/

namespace StreamBalancer

/-- Tunnels and streams on the bench. -/
structure TunnelBench where
  /-- The tunnels dialed. -/
  tunnels : Array Tunnel := #[]
  /-- The streams opened, the dialing side being `a`. -/
  streams : Array Splice := #[]
  /-- The labels given out. -/
  labels : LabelCounts := {}
deriving Inhabited

namespace TunnelBench

/-- What tunnels meet with. -/
structure Network where
  /-- What comes of dialing an address: the service that an agent there relays to, or why there
  is no tunnel. -/
  agent : String → Except TunnelError ListenAddress
  /-- Whether a service accepts connections. -/
  reaches : ListenAddress → Bool

/-- Dial an agent.  The result is the tunnel's number. -/
def dial (s : TunnelBench) (network : Network) (address : String) :
    Except TunnelError Nat × TunnelBench :=
  match network.agent address with
  | .error e => (.error e, s)
  | .ok target => (.ok s.tunnels.size, { s with tunnels := s.tunnels.push (.dialed target) })

/-- Replace a tunnel. -/
def setTunnel (s : TunnelBench) (t : Nat) (tunnel : Tunnel) : TunnelBench :=
  { s with tunnels := s.tunnels.setIfInBounds t tunnel }

/-- Open a stream, `none` if there is no such tunnel.  The result is its number and
the label of its far end. -/
def openStream (s : TunnelBench) (network : Network) (t : Nat) :
    Option (Except TunnelError (Nat × String)) × TunnelBench :=
  match s.tunnels[t]? with
  | none => (none, s)
  | some tunnel =>
    match tunnel.reply false network.reaches with
    | (none, _) => (none, s)
    | (some (.error e), after) => (some (.error e), s.setTunnel t after)
    | (some (.ok _), after) =>
      match s.labels.next (.ofStream t tunnel) with
      | (label, labels) =>
        (some (.ok (s.streams.size, label)),
          { s.setTunnel t after with streams := s.streams.push {}, labels })

/-- Ping through a tunnel, `none` if there is no such tunnel. -/
def ping (s : TunnelBench) (t : Nat) : Option (Except TunnelError Unit) × TunnelBench :=
  match s.tunnels[t]? with
  | none => (none, s)
  | some tunnel =>
    match StreamIds.allocate ⟨tunnel.nextId, tunnel.closed⟩ with
    | (answer, ids) =>
      (some (answer.map fun _ => ()), s.setTunnel t { tunnel with nextId := ids.next })

/-- Close a tunnel. -/
def close (s : TunnelBench) (t : Nat) : TunnelBench :=
  { s with tunnels := s.tunnels.modify t Tunnel.close }

/-- The side of a stream that bytes from a side come out at. -/
def otherSide : Splice.Side → Splice.Side
  | .a => .b
  | .b => .a

/-- What comes of sending bytes into a stream. -/
structure Transfer where
  /-- Whether they could be written. -/
  wrote : Bool
  /-- The bytes that came out. -/
  received : ByteArray

/-- Send bytes into a stream on a side, `none` if there is no such stream. -/
def send (s : TunnelBench) (n : Nat) (side : Splice.Side) (data : ByteArray) :
    Option Transfer × TunnelBench :=
  match s.streams[n]? with
  | none => (none, s)
  | some stream =>
    match stream.send? side data with
    | none => (none, s)
    | some (wrote, stream) =>
      (some ⟨wrote, (stream.party (otherSide side)).received⟩,
        { s with streams := s.streams.setIfInBounds n stream.look })

/-- Shut down a side of a stream and tell whether the other one sees it, `none` if
there is no such stream. -/
def finish (s : TunnelBench) (n : Nat) (side : Splice.Side) : Option Bool × TunnelBench :=
  match (s.streams[n]?).bind fun stream => stream.act? side Peer.finish with
  | none => (none, s)
  | some stream =>
    (some (stream.party (otherSide side)).ended,
      { s with streams := s.streams.setIfInBounds n stream.look })

/-- The next stream id of each tunnel. -/
def nextIds (s : TunnelBench) : List Nat := s.tunnels.toList.map fun t => t.nextId.toNat

end TunnelBench

end StreamBalancer
