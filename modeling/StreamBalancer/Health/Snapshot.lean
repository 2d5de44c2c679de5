import StreamBalancer.Addresses

/-!
# StreamBalancer.Health.Snapshot

Verdicts of a round of probes and what is made of them.

1. A round gives one verdict per probe, and an address may be probed twice.
2. The snapshot of a round holds the addresses with an `up` verdict, each once;
   a `down` verdict for the same address does not take it out.
3. The record of the last round holds the same addresses.
-/

namespace StreamBalancer

/-- The verdict on one address. -/
inductive Health where
  | up
  | down
deriving DecidableEq, Repr

namespace Health

/-- Up if so told, and down else. -/
def ofBool (up : Bool) : Health := if up then .up else .down

/-- Whether the address may receive traffic. -/
def isUp : Health → Bool
  | up => true
  | down => false

end Health

/-- Healthy addresses at one point in time. -/
structure Snapshot where
  /-- The flagged addresses. -/
  entries : List (String × Health)
deriving DecidableEq, Repr, Inhabited

namespace Snapshot

/-- The addresses flagged `up`, in byte order and each once. -/
def healthy (s : Snapshot) : List String :=
  Addresses.ofList ((s.entries.filter fun e => e.2.isUp).map Prod.fst)

/-- The snapshot with the given addresses up. -/
def ofHealthy (addresses : List String) : Snapshot := ⟨addresses.map (·, .up)⟩

/-- Whether the snapshot names no address. -/
def isEmpty (s : Snapshot) : Bool := s.entries.isEmpty

end Snapshot

/-- What is remembered of the last round. -/
structure HealthRecord where
  /-- The addresses that were up. -/
  up : List String := []
deriving DecidableEq, Repr, Inhabited

namespace HealthRecord

/-- Number of addresses up in the last round. -/
def upCount (r : HealthRecord) : Nat := r.up.length

/-- Take in a round of verdicts and give its snapshot. -/
def observe (_ : HealthRecord) (results : List (String × Health)) : HealthRecord × Snapshot :=
  let up := (Snapshot.mk results).healthy
  (⟨up⟩, .ofHealthy up)

end HealthRecord

end StreamBalancer
