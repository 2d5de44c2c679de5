import StreamBalancer.Pool

/-!
# StreamBalancer.Pool.Keyed

A pool whose items have an integer key each, with the smallest or the largest
key on top.  Items are numbered from zero as they are created and stay known
when they leave the pool, so they can be put back.
-/

namespace StreamBalancer

/-- A pool of items with integer keys. -/
structure KeyedPool where
  /-- Whether the largest key is on top. -/
  descending : Bool := false
  /-- The key of each item ever created. -/
  keys : Array Int := #[]
  /-- The heap. -/
  pool : Pool := {}
deriving Repr, Inhabited

namespace KeyedPool

/-- The key of an item. -/
def key (p : KeyedPool) (item : Nat) : Int := p.keys[item]?.getD 0

/-- The order of items by their present keys. -/
def less (p : KeyedPool) (x y : Nat) : Bool :=
  if p.descending then p.key y < p.key x else p.key x < p.key y

/-- Create an item and put it in. -/
def create (p : KeyedPool) (key : Int) : KeyedPool :=
  let p := { p with keys := p.keys.push key }
  { p with pool := p.pool.push p.less (p.keys.size - 1) }

/-- Put an item back, unless it is in the pool or was never created. -/
def putBack? (p : KeyedPool) (item : Nat) : Option KeyedPool :=
  if item < p.keys.size ∧ ¬ p.pool.contains item then
    some { p with pool := p.pool.push p.less item }
  else none

/-- Set the key of an item and leave the heap as it is. -/
def setKey (p : KeyedPool) (item : Nat) (key : Int) : KeyedPool :=
  { p with keys := p.keys.setIfInBounds item key }

/-- Take the top out. -/
def pop (p : KeyedPool) : Option Nat × KeyedPool :=
  match p.pool.pop p.less with
  | (item, pool) => (item, { p with pool })

/-- Take everything out, best item first. -/
def drain (p : KeyedPool) : List Nat × KeyedPool :=
  match p.pool.drain p.less with
  | (items, pool) => (items, { p with pool })

/-- Take the entry at a position out. -/
def remove (p : KeyedPool) (i : Nat) : Option Nat × KeyedPool :=
  match p.pool.remove p.less i with
  | (item, pool) => (item, { p with pool })

/-- Restore the order after the key at a position has changed. -/
def fix (p : KeyedPool) (i : Nat) : KeyedPool := { p with pool := p.pool.fix p.less i }

end KeyedPool

end StreamBalancer
