/-!
# StreamBalancer.Backend

One instance of a backend server: its load, its tunnel slots and its traffic.
Tunnels are known by number.

1. A slot holds at most one tunnel.  Installing a tunnel displaces the one before
   and ends the replacement of the slot.
2. A slot is emptied by eviction only if it still holds the tunnel in question,
   so of several parties that see a tunnel break exactly one takes it out.
3. An inspection asks to replace every tunnel whose next stream id is above the
   high-water mark and whose slot is not being replaced.  Inspections of one
   backend are at least the check interval apart.
4. A retired instance has no tunnels.

An instance may outlive its place in the tables, and an address may come back as
a new instance; the two are told apart by number.
-/

namespace StreamBalancer

/-- When and how tunnels are replaced before their stream ids run out. -/
structure TunnelPolicy where
  /-- Least time between two inspections, in milliseconds. -/
  checkInterval : Nat
  /-- Next stream id above which a tunnel is replaced. -/
  highWater : UInt32
deriving DecidableEq, Repr, Inhabited

/-- One tunnel position of a backend. -/
structure Slot where
  /-- The tunnel in the slot. -/
  tunnel : Option Nat := none
  /-- Whether a replacement has been asked for. -/
  replacing : Bool := false
deriving DecidableEq, Repr, Inhabited

/-- One instance of a backend server. -/
structure Backend where
  /-- Where the server listens. -/
  address : String
  /-- Rank in failover mode, assigned once: the number of instances created before. -/
  weight : Nat
  /-- Forwards in flight. -/
  ongoing : Nat := 0
  /-- The tunnel positions. -/
  slots : List Slot := []
  /-- Dispatches so far; where the round over the slots starts. -/
  dispatches : UInt64 := 0
  /-- Time of the last inspection. -/
  inspected : Option Nat := none
  /-- Whether the instance has been given up. -/
  retired : Bool := false
  /-- Bytes sent by the backend to clients. -/
  received : UInt64 := 0
  /-- Bytes sent by clients to the backend. -/
  sent : UInt64 := 0
deriving DecidableEq, Repr, Inhabited

namespace Backend

/-- A new instance with empty slots. -/
def create (address : String) (tunnelCount weight : Nat) : Backend :=
  { address, weight, slots := List.replicate tunnelCount {} }

/-- One more forward. -/
def begin (b : Backend) : Backend := { b with ongoing := b.ongoing + 1 }

/-- One forward less, at least zero. -/
def finish (b : Backend) : Backend := { b with ongoing := b.ongoing - 1 }

/-- Number of slots that hold a tunnel. -/
def openTunnels (b : Backend) : Nat := (b.slots.filter fun s => s.tunnel.isSome).length

/-- The tunnels in the slots, in slot order. -/
def tunnels (b : Backend) : List Nat := b.slots.filterMap Slot.tunnel

/-- The tunnel in a slot. -/
def tunnel? (b : Backend) (slot : Nat) : Option Nat := b.slots[slot]?.bind Slot.tunnel

/-- Credit forwarded bytes; the counters wrap. -/
def credit (b : Backend) (received sent : UInt64) : Backend :=
  { b with received := b.received + received, sent := b.sent + sent }

/-- Give the instance up and empty its slots. -/
def retire (b : Backend) : Backend :=
  { b with retired := true, slots := b.slots.map fun s => { s with tunnel := none } }

/-- Put a tunnel into a slot. -/
def install (b : Backend) (slot tunnel : Nat) : Backend :=
  { b with slots := b.slots.set slot ⟨some tunnel, false⟩ }

/-- Empty a slot if it still holds the tunnel, and tell whether it did. -/
def evict (b : Backend) (slot tunnel : Nat) : Bool × Backend :=
  if b.tunnel? slot = some tunnel then
    (true, { b with slots := b.slots.modify slot fun s => { s with tunnel := none } })
  else (false, b)

/-- Ask to replace the tunnel of a slot.  False if that was asked before, `none`
if there is no such slot. -/
def markReplacing (b : Backend) (slot : Nat) : Option Bool × Backend :=
  (b.slots[slot]?.map fun s => !s.replacing,
    { b with slots := b.slots.modify slot fun s => { s with replacing := true } })

/-- Count a dispatch. -/
def countDispatch (b : Backend) : Backend := { b with dispatches := b.dispatches + 1 }

/-- Whether an inspection is due. -/
def inspectionDue (b : Backend) (policy : TunnelPolicy) (now : Nat) : Bool :=
  !b.slots.isEmpty && match b.inspected with
    | some time => policy.checkInterval ≤ now - time
    | none => true

/-- Whether a slot's tunnel is past the high-water mark and not being replaced. -/
def Slot.isWorn (policy : TunnelPolicy) (nextId : Nat → UInt32) (s : Slot) : Bool :=
  !s.replacing && match s.tunnel with
    | some t => policy.highWater < nextId t
    | none => false

/-- The slots whose tunnel an inspection asks to replace, `nextId` giving the next
stream id of each tunnel. -/
def wornSlots (b : Backend) (policy : TunnelPolicy) (nextId : Nat → UInt32) : List Nat :=
  ((b.slots.zipIdx).filter fun (s, _) => Slot.isWorn policy nextId s).map Prod.snd

/-- Inspect the tunnels if that is due, and give the slots to replace. -/
def inspect (b : Backend) (policy : TunnelPolicy) (now : Nat) (nextId : Nat → UInt32) :
    List Nat × Backend :=
  if b.inspectionDue policy now then
    (b.wornSlots policy nextId,
      { b with
        inspected := some now
        slots := b.slots.map fun s =>
          if Slot.isWorn policy nextId s then { s with replacing := true } else s })
  else ([], b)

end Backend

end StreamBalancer
