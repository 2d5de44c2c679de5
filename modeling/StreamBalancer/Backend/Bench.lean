import StreamBalancer.Net.Origin
import StreamBalancer.Opening
import StreamBalancer.Text.Quoted

/-!
# StreamBalancer.Backend.Bench

One backend instance worked by hand: its tunnels, whether its address can be
dialed, and the searches for a route that are under way.  The instance has
number zero; its place in a pool is a plain position.

A search goes on until it is on hold or over.  Searches released together go on
in the order in which they started.
-/

namespace StreamBalancer

/-- A backend on the bench. -/
structure Bench where
  /-- The instance and its tunnels. -/
  fleet : Fleet
  /-- Whether the address of the instance can be dialed. -/
  reachable : Bool := false
  /-- The position of the instance in a pool. -/
  position : Option Nat := none
  /-- The searches under way, with their numbers. -/
  searches : List (Nat × Opening) := []
  /-- Number of searches ever started. -/
  started : Nat := 0
  /-- The labels given out. -/
  labels : LabelCounts := {}
deriving Inhabited

namespace Bench

/-- A fresh instance on the bench. -/
def create (address : String) (tunnelCount weight : Nat) (reachable : Bool) : Bench :=
  { fleet := Fleet.addBackend {} (.create address tunnelCount weight), reachable }

/-- The instance. -/
def backend (s : Bench) : Backend := (s.fleet.backend? 0).getD { address := "", weight := 0 }

/-- Change the instance. -/
def modify (s : Bench) (change : Backend → Backend) : Bench :=
  { s with fleet := s.fleet.modifyBackend 0 change }

/-- Add a tunnel. -/
def addTunnel (s : Bench) (t : Tunnel) : Bench := { s with fleet := s.fleet.addTunnel t }

/-- Change a tunnel's next id, if one is given, and then its answer. -/
def setTunnel (s : Bench) (t : Nat) (answer : Option StreamAnswer) (nextId : Option UInt32) : Bench :=
  { s with fleet := s.fleet.modifyTunnel t fun tunnel =>
      { tunnel with nextId := nextId.getD tunnel.nextId, answer := answer.getD tunnel.answer } }

/-- Put a tunnel into a slot. -/
def install (s : Bench) (slot tunnel : Nat) : Bench :=
  { s with fleet := s.fleet.install 0 slot tunnel }

/-- Take a tunnel out of a slot, if it is still there. -/
def evict (s : Bench) (slot tunnel : Nat) : Bool × Bench :=
  match s.fleet.evict 0 slot tunnel with
  | (won, fleet) => (won, { s with fleet })

/-- Ask to replace the tunnel of a slot. -/
def markReplacing (s : Bench) (slot : Nat) : Option Bool × Bench :=
  match s.fleet.markReplacing 0 slot with
  | (isNew, fleet) => (isNew, { s with fleet })

/-- Count a dispatch and inspect the tunnels. -/
def check (s : Bench) (policy : TunnelPolicy) : List Nat × Bench :=
  match s.fleet.checkTunnels 0 policy 0 with
  | (worn, fleet) => (worn, { s with fleet })

/-- Give the instance up. -/
def retire (s : Bench) : Bench := { s with fleet := s.fleet.retire 0 }

/-- Make the address reachable or not, and tell whether that is a change. -/
def setReachable (s : Bench) (on : Bool) : Bool × Bench :=
  (s.reachable != on, { s with reachable := on })

/-- Start a search; the result is its number. -/
def startSearch (s : Bench) : Nat × Bench :=
  (s.started,
    { s with
      searches := s.searches ++ [(s.started, Opening.begin s.fleet 0)]
      started := s.started + 1 })

/-- Run one search as far as it goes. -/
def runSearch (s : Bench) (search : Nat × Opening) : Bench :=
  match search.2.run (fun _ => s.reachable) s.fleet with
  | (opening, fleet) => { s with fleet, searches := s.searches ++ [(search.1, opening)] }

/-- The label of the route that a search found, `none` if it found none. -/
def labelFound (s : Bench) (opening : Opening) : Option String × Bench :=
  let learn (o : Origin) : Option String × Bench :=
    match s.labels.next o with
    | (label, labels) => (some label, { s with labels })
  match opening.phase with
  | .found (.stream tunnel) => learn (.tunnel tunnel)
  | .found .direct => learn (.service s.backend.address)
  | _ => (none, s)

/-- Give the outcomes of the searches in the list, in its order. -/
def labelAll (s : Bench) : List (Nat × Opening) → List (Nat × Option String) × Bench
  | [] => ([], s)
  | (number, opening) :: rest =>
    match s.labelFound opening with
    | (label, s) => match s.labelAll rest with
      | (outcomes, s) => ((number, label) :: outcomes, s)

/-- Run all searches as far as they go.  The result lists those that are over, by
number, with the label of what they found. -/
def settle (s : Bench) : List (Nat × Option String) × Bench :=
  let s := s.searches.foldl runSearch { s with searches := [] }
  let done := (s.searches.filter fun e => e.2.isOver).mergeSort fun x y => x.1 ≤ y.1
  { s with searches := s.searches.filter fun e => !e.2.isOver }.labelAll done

/-- The failure reports since the last time, which are then forgotten. -/
def takeFailures (s : Bench) : List Failure × Bench :=
  (s.fleet.failures, { s with fleet := { s.fleet with failures := [] } })

/-- The position that stands for no position. -/
def noPosition : Nat := UInt64.size - 1

/-- Put the instance at a position, `noPosition` taking it out. -/
def setPosition (s : Bench) (position : Nat) : Bench :=
  { s with position := if position = noPosition then none else some position }

/-- The instance as shown for debugging. -/
def text (s : Bench) : String :=
  "Backend \x7b addr: " ++ Text.quoted s.backend.address ++
    ", weight: " ++ toString s.backend.weight ++
    ", ongoing: " ++ toString s.backend.ongoing ++
    ", heap_index: " ++ toString (s.position.getD noPosition) ++
    ", open_tunnels: " ++ toString s.backend.openTunnels ++
    ", retired: " ++ toString s.backend.retired ++ " \x7d"

/-- A tunnel as shown for debugging. -/
def tunnelText (s : Bench) (t : Nat) : String :=
  "Tunnel \x7b local_addr: None, next_stream_id: " ++ toString (s.fleet.nextId t) ++ " \x7d None"

/-- A failure report as shown for debugging. -/
def failureText (s : Bench) (f : Failure) : String :=
  "Session \x7b backend: " ++ Text.quoted s.backend.address ++
    ", slot: " ++ toString f.slot ++ ", established: true \x7d"

end Bench

end StreamBalancer
