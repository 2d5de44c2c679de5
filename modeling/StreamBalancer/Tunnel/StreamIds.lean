import StreamBalancer.Tunnel.Error

/-!
# StreamBalancer.Tunnel.StreamIds

Stream ids of one multiplexed connection.  Ids opened by the dialing side are
odd and start at 1.  Every stream and every ping takes the id at the counter,
and the counter moves on by two in 32-bit arithmetic, also when the id taken is
past the largest one and the call fails.  The counter shows in advance that a
connection is about to be used up.
-/

namespace StreamBalancer

/-- Largest stream id that a connection can ever allocate. -/
def maxStreamId : UInt32 := 0x7fffffff

/-- Default id above which a tunnel is replaced before it runs dry. -/
def defaultHighWater : UInt32 := maxStreamId - 0x100000

/-- The stream ids of one connection. -/
structure StreamIds where
  /-- The id that the next stream gets. -/
  next : UInt32 := 1
  /-- Whether the connection has been closed. -/
  closed : Bool := false
deriving DecidableEq, Repr, Inhabited

namespace StreamIds

/-- Take the next id.  A closed connection gives none and stays as it is. -/
def allocate (ids : StreamIds) : Except TunnelError UInt32 × StreamIds :=
  if ids.closed then (.error .closed, ids)
  else
    (if maxStreamId < ids.next then .error .streamsExhausted else .ok ids.next,
      { ids with next := ids.next + 2 })

/-- Close the connection.  Closing twice is the same as closing once. -/
def close (ids : StreamIds) : StreamIds := { ids with closed := true }

end StreamIds

end StreamBalancer
