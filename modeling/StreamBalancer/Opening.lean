import StreamBalancer.Fleet

/-!
# StreamBalancer.Opening

The search for a route to one backend instance.

1. It starts at the slot that the dispatch counter selects when the search
   begins, and visits each slot once, in turn.
2. An empty slot is skipped; a tunnel is asked for a stream.
3. A stream ends the search.  An error that does not break the session ends the
   visits: the agent is alive but its service is not, and other tunnels would say
   the same.
4. An error that breaks the session evicts the tunnel.  Whoever wins the eviction
   closes the tunnel and reports it; then the next slot is visited.
5. When the visits end without a stream, the backend is dialed directly.

A search is a sequence of small steps, between which other parties may act on the
same slots.
-/

namespace StreamBalancer

/-- How a backend is reached. -/
inductive Route where
  /-- A stream of a tunnel. -/
  | stream (tunnel : Nat)
  /-- A connection to the backend's own address. -/
  | direct
deriving DecidableEq, Repr

/-- A tunnel found in a slot, after `visited` other slots. -/
structure Opening.Visit where
  /-- Number of slots visited before. -/
  visited : Nat
  /-- The slot. -/
  slot : Nat
  /-- The tunnel found in it. -/
  tunnel : Nat
deriving DecidableEq, Repr

/-- How far a search has come. -/
inductive Opening.Phase where
  /-- About to look at the next slot; `visited` slots are behind it. -/
  | seeking (visited : Nat)
  /-- Asks a tunnel for a stream; `held` once the request is on hold. -/
  | asking (visit : Opening.Visit) (held : Bool)
  /-- Has taken a broken tunnel out of its slot and is about to close it. -/
  | evicted (visit : Opening.Visit)
  /-- Has closed the broken tunnel and is about to report it. -/
  | reporting (visit : Opening.Visit)
  /-- About to dial the backend directly. -/
  | dialing
  /-- Has a route. -/
  | found (route : Route)
  /-- Has none: the direct connection was refused. -/
  | unreachable
deriving DecidableEq, Repr

/-- A search for a route. -/
structure Opening where
  /-- The backend instance. -/
  backend : Nat
  /-- The dispatch counter when the search began. -/
  start : Nat
  /-- How far the search has come. -/
  phase : Opening.Phase := .seeking 0
deriving DecidableEq, Repr

namespace Opening

/-- A search that begins now. -/
def begin (f : Fleet) (b : Nat) : Opening :=
  { backend := b, start := ((f.backend? b).map fun x => x.dispatches.toNat).getD 0 }

/-- The slots of the backend. -/
def slots (f : Fleet) (o : Opening) : List Slot := ((f.backend? o.backend).map Backend.slots).getD []

/-- The address of the backend. -/
def address (f : Fleet) (o : Opening) : String :=
  ((f.backend? o.backend).map Backend.address).getD ""

/-- The slot to visit after `visited` others. -/
def slotAt (f : Fleet) (o : Opening) (visited : Nat) : Nat :=
  (o.start + visited) % (o.slots f).length

/-! ## Single steps -/

/-- Look at the next slot. -/
def seek (f : Fleet) (o : Opening) (visited : Nat) : Opening :=
  if (o.slots f).length ≤ visited then { o with phase := .dialing }
  else
    let slot := o.slotAt f visited
    match (o.slots f)[slot]?.bind Slot.tunnel with
    | some tunnel => { o with phase := .asking ⟨visited, slot, tunnel⟩ false }
    | none => { o with phase := .seeking (visited + 1) }

/-- The tunnel gave a stream. -/
def granted (o : Opening) (v : Visit) : Opening := { o with phase := .found (.stream v.tunnel) }

/-- The tunnel gave an error. -/
def failed (f : Fleet) (o : Opening) (v : Visit) (e : TunnelError) : Opening × Fleet :=
  if e.breaksSession then
    match f.evict o.backend v.slot v.tunnel with
    | (true, g) => ({ o with phase := .evicted v }, g)
    | (false, g) => ({ o with phase := .seeking (v.visited + 1) }, g)
  else ({ o with phase := .dialing }, f)

/-- Close the tunnel that was taken out. -/
def closeEvicted (f : Fleet) (o : Opening) (v : Visit) : Opening × Fleet :=
  ({ o with phase := .reporting v }, f.close v.tunnel)

/-- Report the tunnel that was taken out. -/
def report (f : Fleet) (o : Opening) (v : Visit) : Opening × Fleet :=
  ({ o with phase := .seeking (v.visited + 1) },
    { f.count (.sessions .evicted) with failures := f.failures ++ [⟨o.backend, v.slot, v.tunnel⟩] })

/-- The direct connection is accepted or refused. -/
def dialed (o : Opening) (accepted : Bool) : Opening :=
  { o with phase := if accepted then .found .direct else .unreachable }

/-! ## Running -/

/-- The reply of the tunnel of a visit, and the tunnel after it. -/
def ask (reach : ListenAddress → Bool) (f : Fleet) (v : Visit) (held : Bool) :
    Option (Except TunnelError Unit) × Tunnel :=
  match f.tunnels[v.tunnel]? with
  | some t => t.reply held reach
  | none => (some (.error .closed), {})

/-- The next step of a search, `none` if it is on hold or over.  `reach` tells
which addresses can be dialed. -/
def step? (reach : ListenAddress → Bool) (f : Fleet) (o : Opening) : Option (Opening × Fleet) :=
  match o.phase with
  | .seeking visited => some (o.seek f visited, f)
  | .asking v held =>
    match ask reach f v held with
    | (none, _) => if held then none else some ({ o with phase := .asking v true }, f)
    | (some (.ok _), t) => some (o.granted v, f.modifyTunnel v.tunnel fun _ => t)
    | (some (.error e), t) => some (o.failed (f.modifyTunnel v.tunnel fun _ => t) v e)
  | .evicted v => some (o.closeEvicted f v)
  | .reporting v => some (o.report f v)
  | .dialing => some (o.dialed (reach (.tcp (o.address f))), f)
  | .found _ | .unreachable => none

/-- At most so many steps. -/
def runSteps (reach : ListenAddress → Bool) : Nat → Fleet → Opening → Opening × Fleet
  | 0, f, o => (o, f)
  | n + 1, f, o =>
    match o.step? reach f with
    | some (o', g) => runSteps reach n g o'
    | none => (o, f)

/-- Go on until the search is on hold or over.  No visit takes more than five
steps, and three more end the search. -/
def run (reach : ListenAddress → Bool) (f : Fleet) (o : Opening) : Opening × Fleet :=
  runSteps reach (5 * (o.slots f).length + 3) f o

/-- Whether the search is over. -/
def isOver (o : Opening) : Bool :=
  match o.phase with
  | .found _ | .unreachable => true
  | _ => false

end Opening

end StreamBalancer
