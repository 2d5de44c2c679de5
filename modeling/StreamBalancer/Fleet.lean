import StreamBalancer.Backend
import StreamBalancer.Metrics
import StreamBalancer.Tunnel

/-!
# StreamBalancer.Fleet

All backend instances and all tunnels that ever were, by number, together with
what their users report: broken tunnels, in the order of the reports, and
metrics.  Numbers are never reused, so a late report about a tunnel or an
instance can always be told from one about its successor.

A tunnel is closed here in four situations: it is displaced by another one, its
slot does not exist, its backend is retired, or the party that evicted it closes
it.  In each case it has just been taken out of its slot, or was never in one.
-/

namespace StreamBalancer

/-- A report that the tunnel in a slot broke and was taken out. -/
structure Failure where
  /-- The backend instance. -/
  backend : Nat
  /-- The slot. -/
  slot : Nat
  /-- The tunnel that broke. -/
  tunnel : Nat
deriving DecidableEq, Repr

/-- Backend instances and tunnels, by number. -/
structure Fleet where
  /-- Every instance ever created. -/
  backends : Array Backend := #[]
  /-- Every tunnel a dial ever returned. -/
  tunnels : Array Tunnel := #[]
  /-- Reports of broken tunnels that were not read yet. -/
  failures : List Failure := []
  /-- Counters and gauges. -/
  metrics : Metrics := {}
deriving Inhabited

namespace Fleet

/-- The instance with a number. -/
def backend? (f : Fleet) (b : Nat) : Option Backend := f.backends[b]?

/-- Change an instance. -/
def modifyBackend (f : Fleet) (b : Nat) (change : Backend → Backend) : Fleet :=
  { f with backends := f.backends.modify b change }

/-- Change a tunnel. -/
def modifyTunnel (f : Fleet) (t : Nat) (change : Tunnel → Tunnel) : Fleet :=
  { f with tunnels := f.tunnels.modify t change }

/-- Count an event. -/
def count (f : Fleet) (s : Series) : Fleet := { f with metrics := f.metrics.count s }

/-- Set a gauge. -/
def setGauge (f : Fleet) (s : Series) (n : Nat) : Fleet :=
  { f with metrics := f.metrics.set s n }

/-- The next stream id of a tunnel. -/
def nextId (f : Fleet) (t : Nat) : UInt32 := (f.tunnels[t]?.map Tunnel.nextId).getD 0

/-- Add an instance; its number is the former count. -/
def addBackend (f : Fleet) (b : Backend) : Fleet := { f with backends := f.backends.push b }

/-- Add a tunnel; its number is the former count. -/
def addTunnel (f : Fleet) (t : Tunnel) : Fleet := { f with tunnels := f.tunnels.push t }

/-- Tell a tunnel to close. -/
def close (f : Fleet) (t : Nat) : Fleet := f.modifyTunnel t Tunnel.close

/-- Tell tunnels to close, in order. -/
def closeAll (f : Fleet) (ts : List Nat) : Fleet := ts.foldl close f

/-- Give an instance up: its slots are emptied and their tunnels closed. -/
def retire (f : Fleet) (b : Nat) : Fleet :=
  match f.backend? b with
  | some backend => (f.modifyBackend b Backend.retire).closeAll backend.tunnels
  | none => f

/-- Put a tunnel into a slot and close the one before.  Without such a slot the
tunnel itself is closed. -/
def install (f : Fleet) (b slot tunnel : Nat) : Fleet :=
  match (f.backend? b).bind fun backend => backend.slots[slot]? with
  | some s => (f.modifyBackend b fun backend => backend.install slot tunnel).closeAll s.tunnel.toList
  | none => f.close tunnel

/-- Take a tunnel out of a slot if it is still there, and tell whether it was. -/
def evict (f : Fleet) (b slot tunnel : Nat) : Bool × Fleet :=
  match f.backend? b with
  | some backend =>
    ((backend.evict slot tunnel).1, f.modifyBackend b fun x => (x.evict slot tunnel).2)
  | none => (false, f)

/-- Ask to replace the tunnel of a slot, and tell whether that is new. -/
def markReplacing (f : Fleet) (b slot : Nat) : Option Bool × Fleet :=
  match f.backend? b with
  | some backend =>
    ((backend.markReplacing slot).1, f.modifyBackend b fun x => (x.markReplacing slot).2)
  | none => (none, f)

/-- Count a dispatch to an instance and inspect its tunnels if that is due.  The
result lists the slots whose tunnel is to be replaced. -/
def checkTunnels (f : Fleet) (b : Nat) (policy : TunnelPolicy) (now : Nat) : List Nat × Fleet :=
  match f.backend? b with
  | some backend =>
    let worn := (backend.countDispatch.inspect policy now f.nextId).1
    let g := f.modifyBackend b fun x => (x.countDispatch.inspect policy now f.nextId).2
    (worn, worn.foldl (fun h _ => h.count (.sessions .replaced)) g)
  | none => ([], f)

end Fleet

end StreamBalancer
