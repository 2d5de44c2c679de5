import StreamBalancer.Registry

/-!
# StreamBalancer.Pool

The priority pool: a binary heap of numbered items, the best one on top.

1. The order is a parameter of every operation, `less x y` saying that `x` goes
   before `y`.  It may read keys that change while their items are in the pool.
2. The pool remembers the position of each item in it, so an item can be
   re-sorted or taken out by its position; an item outside has no position.
3. Every exchange of two entries updates the two positions.
4. Only `siftUp` and `siftDown` look at the order.  A removed entry is first
   exchanged with the last one, and the order is restored below, or else above.

Positions that are out of range leave the pool as it is.
-/

namespace StreamBalancer

/-- A heap of item numbers. -/
structure Pool where
  /-- The items in heap order: the parent of position `i` is `(i - 1) / 2`. -/
  items : Array Nat := #[]
  /-- The position of each item in the heap. -/
  positions : Registry Nat := {}
deriving Repr, DecidableEq, Inhabited

namespace Pool

/-- Number of items. -/
def size (p : Pool) : Nat := p.items.size

/-- Whether no item is in the pool. -/
def isEmpty (p : Pool) : Bool := p.items.isEmpty

/-- The item on top. -/
def top? (p : Pool) : Option Nat := p.items[0]?

/-- The remembered position of an item. -/
def position? (p : Pool) (item : Nat) : Option Nat := p.positions.get? item

/-- Whether an item is in the pool, by its remembered position. -/
def contains (p : Pool) (item : Nat) : Bool := (p.position? item).isSome

/-- Set the remembered position of an item. -/
def setPosition (p : Pool) (item : Nat) (position : Option Nat) : Pool :=
  { p with positions := p.positions.put item position }

/-- Set the position of the item at `i` to `i`. -/
def settle (p : Pool) (i : Nat) : Pool :=
  match p.items[i]? with
  | some item => p.setPosition item (some i)
  | none => p

/-- Exchange two entries and set their positions. -/
def swap (p : Pool) (i j : Nat) : Pool :=
  (({ p with items := p.items.swapIfInBounds i j } : Pool).settle i).settle j

/-- Whether the item at `i` goes before the item at `j`. -/
def lessAt (less : Nat → Nat → Bool) (p : Pool) (i j : Nat) : Bool :=
  match p.items[i]?, p.items[j]? with
  | some x, some y => less x y
  | _, _ => false

/-- Move the item at `i` towards the top while it goes before its parent. -/
def siftUp (less : Nat → Nat → Bool) (p : Pool) (i : Nat) : Pool :=
  if i = 0 then p
  else if p.lessAt less i ((i - 1) / 2) then (p.swap ((i - 1) / 2) i).siftUp less ((i - 1) / 2)
  else p
termination_by i

/-- The child of `i` that goes first among the first `n` entries. -/
def firstChild? (less : Nat → Nat → Bool) (p : Pool) (i n : Nat) : Option Nat :=
  if n ≤ 2 * i + 1 then none
  else if 2 * i + 2 < n && p.lessAt less (2 * i + 2) (2 * i + 1) then some (2 * i + 2)
  else some (2 * i + 1)

theorem firstChild?_bounds {less : Nat → Nat → Bool} {p : Pool} {i n c : Nat}
    (h : p.firstChild? less i n = some c) : i < c ∧ c < n := by
  unfold firstChild? at h
  split at h
  · contradiction
  · split at h <;> simp_all <;> omega

/-- Move the item at `i` down among the first `n` entries while a child goes
before it.  The result names the position where it ends. -/
def siftDown (less : Nat → Nat → Bool) (p : Pool) (i n : Nat) : Pool × Nat :=
  match _h : p.firstChild? less i n with
  | none => (p, i)
  | some c => if p.lessAt less c i then (p.swap i c).siftDown less c n else (p, i)
termination_by n - i
decreasing_by
  have := firstChild?_bounds _h
  omega

/-- Restore the order around `i` among the first `n` entries. -/
def restore (less : Nat → Nat → Bool) (p : Pool) (i n : Nat) : Pool :=
  match p.siftDown less i n with
  | (q, j) => if i < j then q else q.siftUp less i

/-- Take the last entry out. -/
def takeLast (p : Pool) : Option Nat × Pool :=
  match p.items.back? with
  | some item => (some item, ({ p with items := p.items.pop } : Pool).setPosition item none)
  | none => (none, p)

/-- Put an item in. -/
def push (less : Nat → Nat → Bool) (p : Pool) (item : Nat) : Pool :=
  (({ p with items := p.items.push item } : Pool).setPosition item (some p.size)).siftUp less p.size

/-- Take the top out. -/
def pop (less : Nat → Nat → Bool) (p : Pool) : Option Nat × Pool :=
  if p.isEmpty then (none, p)
  else ((p.swap 0 (p.size - 1)).siftDown less 0 (p.size - 1)).1.takeLast

/-- Take the entry at `i` out. -/
def remove (less : Nat → Nat → Bool) (p : Pool) (i : Nat) : Option Nat × Pool :=
  if p.size ≤ i then (none, p)
  else if i = p.size - 1 then p.takeLast
  else ((p.swap i (p.size - 1)).restore less i (p.size - 1)).takeLast

/-- Restore the order after the key of the item at `i` has changed. -/
def fix (less : Nat → Nat → Bool) (p : Pool) (i : Nat) : Pool :=
  if p.size ≤ i then p else p.restore less i p.size

/-- Take an item out, if it is in the pool. -/
def erase (less : Nat → Nat → Bool) (p : Pool) (item : Nat) : Pool :=
  match p.position? item with
  | some i => (p.remove less i).2
  | none => p

/-- Restore the order after the key of an item has changed, if it is in the pool. -/
def update (less : Nat → Nat → Bool) (p : Pool) (item : Nat) : Pool :=
  match p.position? item with
  | some i => p.fix less i
  | none => p

/-- Take items out until none is left. -/
def drain (less : Nat → Nat → Bool) (p : Pool) : List Nat × Pool :=
  go p p.size
where
  /-- At most `n` items. -/
  go (p : Pool) : Nat → List Nat × Pool
    | 0 => ([], p)
    | n + 1 =>
      match p.pop less with
      | (none, q) => ([], q)
      | (some item, q) => match go q n with
        | (items, r) => (item :: items, r)

/-- Every item is at its remembered position. -/
def synced (p : Pool) : Bool :=
  p.items.toList.zipIdx.all fun (item, i) => p.position? item == some i

end Pool

end StreamBalancer
