/-!
# StreamBalancer.Net.Peer

The outer end of a connection: the party that talks to the balancer.  It keeps
what the party has sent and the balancer has not read, and what the balancer has
sent and the party has not looked at.
-/

namespace StreamBalancer

/-- The party at the outer end of a connection. -/
structure Peer where
  /-- Sent by the party and not read yet. -/
  unread : ByteArray := .empty
  /-- The party sends no more. -/
  finished : Bool := false
  /-- The party has vanished: nothing can be sent to it. -/
  gone : Bool := false
  /-- The party has broken the connection off: reading from it fails. -/
  reset : Bool := false
  /-- Received by the party since its last look. -/
  received : ByteArray := .empty
  /-- The party has reached the end of what is sent to it. -/
  ended : Bool := false
  /-- It has done so since its last look. -/
  endedNow : Bool := false
  /-- The balancer has let go of its end. -/
  released : Bool := false
  /-- The party has sent something after that, in vain. -/
  wasted : Bool := false
deriving Inhabited

namespace Peer

/-- Whether the party can send. -/
def canSend (p : Peer) : Bool := !p.finished && !p.released

/-- The party sends. -/
def send (p : Peer) (data : ByteArray) : Peer := { p with unread := p.unread ++ data }

/-- The party shuts down its sending side. -/
def finish (p : Peer) : Peer := { p with finished := true }

/-- The party vanishes. -/
def vanish (p : Peer) : Peer := { p with finished := true, gone := true }

/-- The party breaks the connection off. -/
def breakOff (p : Peer) : Peer := { p.vanish with reset := true }

/-- The balancer sends no more. -/
def endStream (p : Peer) : Peer :=
  { p with ended := true, endedNow := p.endedNow || !p.ended }

/-- The balancer lets go of its end. -/
def release (p : Peer) : Peer := { p.endStream with released := true }

/-- Whether something has reached the party since its last look. -/
def hasNews (p : Peer) : Bool := !p.received.isEmpty || p.endedNow

/-- The party looks, and so forgets what is new. -/
def look (p : Peer) : Peer := { p with received := .empty, endedNow := false }

end Peer

end StreamBalancer
