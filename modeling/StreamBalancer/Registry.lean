/-!
# StreamBalancer.Registry

Finite maps keyed by identity numbers.  Identities are handed out from zero up,
so a map is an array of cells, grown on demand; what lies beyond it is absent.

* `get?_put` — a cell holds what was put last, and the others stay.
-/

namespace StreamBalancer

/-- A finite map from numbers. -/
structure Registry (α : Type) where
  /-- The value at each number, absent or present. -/
  cells : Array (Option α) := #[]
deriving Repr, DecidableEq

namespace Registry

variable {α : Type}

instance : Inhabited (Registry α) := ⟨{}⟩

/-- The value at a number. -/
def get? (r : Registry α) (i : Nat) : Option α := r.cells[i]?.join

/-- Replace what is at a number; `none` takes it out. -/
def put (r : Registry α) (i : Nat) (a : Option α) : Registry α :=
  if i < r.cells.size then ⟨r.cells.setIfInBounds i a⟩
  else ⟨(r.cells ++ Array.replicate (i - r.cells.size) none).push a⟩

theorem get?_put (r : Registry α) (i j : Nat) (a : Option α) :
    (r.put i a).get? j = if j = i then a else r.get? j := by
  unfold put get?
  split
  · simp only [Array.getElem?_setIfInBounds]
    split <;> grind
  · simp only [Array.getElem?_push, Array.getElem?_append, Array.size_append,
      Array.size_replicate, Array.getElem?_replicate]
    split <;> grind

end Registry

end StreamBalancer
