import StreamBalancer.Backend
import StreamBalancer.Pool

/-!
# StreamBalancer.Backend.Ranking

The two orders in which backends are preferred, and a pool of backends kept in
one of them.

* *least loaded*: the one with fewer forwards in flight goes first;
* *failover*: the one with the lower weight goes first, whatever its load.
-/

namespace StreamBalancer

/-- How backends are preferred. -/
inductive ScheduleMode where
  | leastLoaded
  | failover
deriving DecidableEq, Repr, Inhabited

/-- Whether one backend goes before another, by number. -/
def ScheduleMode.less (mode : ScheduleMode) (backends : Array Backend) (x y : Nat) : Bool :=
  match backends[x]?, backends[y]? with
  | some a, some b =>
    match mode with
    | .leastLoaded => a.ongoing < b.ongoing
    | .failover => a.weight < b.weight
  | _, _ => false

/-- Backends, some of them in a pool. -/
structure Ranking where
  /-- The order of the pool. -/
  mode : ScheduleMode := .leastLoaded
  /-- The backends, by number. -/
  backends : Array Backend := #[]
  /-- The pool. -/
  pool : Pool := {}
deriving Repr, Inhabited

namespace Ranking

/-- The order by the present state of the backends. -/
def less (r : Ranking) : Nat → Nat → Bool := r.mode.less r.backends

/-- Put a backend in, unless it is in the pool. -/
def push? (r : Ranking) (b : Nat) : Option Ranking :=
  if r.pool.contains b then none else some { r with pool := r.pool.push r.less b }

/-- Change the state of a backend and leave the pool as it is. -/
def modify (r : Ranking) (b : Nat) (change : Backend → Backend) : Ranking :=
  { r with backends := r.backends.modify b change }

/-- Restore the order after a backend has changed. -/
def update (r : Ranking) (b : Nat) : Ranking := { r with pool := r.pool.update r.less b }

/-- Take a backend out, if it is in the pool, and tell which one came out. -/
def remove (r : Ranking) (b : Nat) : Option Nat × Ranking :=
  match r.pool.position? b with
  | some i => match r.pool.remove r.less i with
    | (out, pool) => (out, { r with pool })
  | none => (none, r)

/-- Take the best backend out. -/
def pop (r : Ranking) : Option Nat × Ranking :=
  match r.pool.pop r.less with
  | (out, pool) => (out, { r with pool })

/-- Give one more forward to the best backend. -/
def dispatch (r : Ranking) : Option Nat × Ranking :=
  match r.pop with
  | (none, r) => (none, r)
  | (some b, r) =>
    let r := r.modify b Backend.begin
    (some b, { r with pool := r.pool.push r.less b })

end Ranking

end StreamBalancer
