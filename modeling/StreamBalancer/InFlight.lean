/-!
# StreamBalancer.InFlight

The count of connections in flight.  Each connection has an id, larger than all
before it, and holds a guard; the count goes up when a guard is made and down
when it is let go, in 64-bit arithmetic.

Draining waits for the count to reach zero.  It looks at once and then every
`lookInterval`, and gives up when its time is over; a look that falls on that
very moment still counts.
-/

namespace StreamBalancer

/-- A guard that is to be let go at a point in time. -/
structure InFlight.Release where
  /-- The guard. -/
  guard : Nat
  /-- When, in milliseconds. -/
  time : Nat
deriving DecidableEq, Repr

/-- The connections in flight. -/
structure InFlight where
  /-- The count. -/
  active : UInt64 := 0
  /-- The guards that are held, by the numbers of their connections. -/
  held : List Nat := []
  /-- Number of connections ever. -/
  tracked : Nat := 0
  /-- The clock, in milliseconds. -/
  now : Nat := 0
  /-- What is to be let go. -/
  releases : List InFlight.Release := []
deriving DecidableEq, Repr, Inhabited

namespace InFlight

/-- Time between two looks. -/
def lookInterval : Nat := 100

/-- The text of a connection id. -/
def idText (id : Nat) : String := "conn-" ++ toString id

/-- Count a new connection, whose number is given. -/
def track (t : InFlight) : Nat × InFlight :=
  (t.tracked,
    { t with active := t.active + 1, held := t.held ++ [t.tracked], tracked := t.tracked + 1 })

/-- Let a guard go; false if it is not held. -/
def release (t : InFlight) (guard : Nat) : Bool × InFlight :=
  if t.held.contains guard then
    (true, { t with active := t.active - 1, held := t.held.erase guard })
  else (false, t)

/-- Let go at a point in time. -/
def schedule (t : InFlight) (r : Release) : InFlight := { t with releases := t.releases ++ [r] }

/-- Let go all that is due, `isDue` telling which points in time have come. -/
def releaseDue (t : InFlight) (isDue : Nat → Bool) : InFlight :=
  (t.releases.filter fun r => isDue r.time).foldl (fun t r => (t.release r.guard).2)
    { t with releases := t.releases.filter fun r => !isDue r.time }

/-- The end of a drain at a point in time. -/
def endDrain (t : InFlight) (time : Nat) : InFlight :=
  { t.releaseDue (fun r => r ≤ time) with now := time }

/-- The outcome of a drain. -/
structure Drain where
  /-- Whether the count reached zero. -/
  drained : Bool
  /-- How long it took, in milliseconds. -/
  elapsed : Nat
deriving DecidableEq, Repr

/-- Drain from the look that comes `elapsed` after the start, with so many looks
left after it. -/
def drainFrom (start timeout : Nat) : (left elapsed : Nat) → InFlight → Drain × InFlight
  | 0, elapsed, t =>
    if t.active = 0 then (⟨true, elapsed⟩, t.endDrain (start + elapsed))
    else (⟨false, timeout⟩, t.endDrain (start + timeout))
  | left + 1, elapsed, t =>
    if t.active = 0 then (⟨true, elapsed⟩, t.endDrain (start + elapsed))
    else
      let next := elapsed + lookInterval
      drainFrom start timeout left next (t.releaseDue fun r => r < start + next)

/-- Wait until nothing is in flight, at most `timeout` milliseconds. -/
def drain (t : InFlight) (timeout : Nat) : Drain × InFlight :=
  drainFrom t.now timeout (timeout / lookInterval) 0 t

end InFlight

end StreamBalancer
