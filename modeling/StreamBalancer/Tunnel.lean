import StreamBalancer.Listen
import StreamBalancer.Tunnel.StreamIds

/-!
# StreamBalancer.Tunnel

One multiplexed connection to an agent, as its users see it: the id that the
next stream gets, how often it was told to close, and how its far end answers a
request for a stream.

A request is looked at once when it is made, and is refused then if the tunnel is
closed; a request on hold is not refused for being closed meanwhile.
-/

namespace StreamBalancer

/-- How the far end of a tunnel answers a request for a stream. -/
inductive StreamAnswer where
  /-- With a stream. -/
  | grant
  /-- Not yet. -/
  | hold
  /-- With an error. -/
  | fail (error : TunnelError)
  /-- By dialing a service, for each stream anew. -/
  | relay (service : ListenAddress)
deriving DecidableEq, Repr, Inhabited

/-- A tunnel that some dial returned. -/
structure Tunnel where
  /-- The id that the next stream gets. -/
  nextId : UInt32 := 1
  /-- How often the tunnel was told to close. -/
  closes : Nat := 0
  /-- How the far end answers. -/
  answer : StreamAnswer := .grant
deriving DecidableEq, Repr, Inhabited

namespace Tunnel

/-- Whether the tunnel was told to close. -/
def closed (t : Tunnel) : Bool := 0 < t.closes

/-- Tell the tunnel to close. -/
def close (t : Tunnel) : Tunnel := { t with closes := t.closes + 1 }

/-- The tunnel after one more stream id was taken. -/
def takeId (t : Tunnel) : Tunnel := { t with nextId := t.nextId + 2 }

/-- A tunnel that was just dialed to an agent: its ping has taken a stream id. -/
def dialed (target : ListenAddress) : Tunnel := { answer := .relay target : Tunnel }.takeId

/-- The reply to a request for a stream: `none` while it is on hold.  `held` says
that the request was on hold before, and `reach` which services can be dialed. -/
def reply (t : Tunnel) (held : Bool) (reach : ListenAddress → Bool) :
    Option (Except TunnelError Unit) × Tunnel :=
  if !held && t.closed then (some (.error .closed), t)
  else
    match t.answer with
    | .grant => (some (.ok ()), t.takeId)
    | .hold => (none, t)
    | .fail e => (some (.error e), t)
    | .relay service =>
      match StreamIds.allocate ⟨t.nextId, false⟩ with
      | (.error e, ids) => (some (.error e), { t with nextId := ids.next })
      | (.ok _, ids) =>
        (some (if reach service then .ok () else .error (.refused .badGateway)),
          { t with nextId := ids.next })

end Tunnel

end StreamBalancer
