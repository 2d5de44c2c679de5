/-!
# StreamBalancer.Directory

Which instance is known under which address.  An address has one instance at
most.  The order of the entries is the order in which they were made; nothing
outside may depend on it.

* `find?_insert`, `find?_erase` — an entry is what was made last, and the others
  stay.
-/

namespace StreamBalancer

/-- Instances by address. -/
structure Directory where
  /-- The addresses with their instances. -/
  entries : List (String × Nat) := []
deriving DecidableEq, Repr, Inhabited

namespace Directory

/-- Number of entries. -/
def size (d : Directory) : Nat := d.entries.length

/-- The addresses. -/
def addresses (d : Directory) : List String := d.entries.map Prod.fst

/-- The instance under an address. -/
def find? (d : Directory) (address : String) : Option Nat := d.entries.lookup address

/-- Whether an address has an entry. -/
def contains (d : Directory) (address : String) : Bool := (d.find? address).isSome

/-- Take the entry of an address out. -/
def erase (d : Directory) (address : String) : Directory :=
  ⟨d.entries.filter fun e => e.1 ≠ address⟩

/-- Make an entry, in place of an earlier one for the address. -/
def insert (d : Directory) (address : String) (instanceNumber : Nat) : Directory :=
  ⟨(d.erase address).entries ++ [(address, instanceNumber)]⟩

theorem find?_erase (d : Directory) (a b : String) :
    (d.erase a).find? b = if b = a then none else d.find? b := by
  unfold erase find?
  induction d.entries with
  | nil => simp
  | cons e es ih =>
    obtain ⟨k, i⟩ := e
    by_cases hk : k = a
    · subst hk
      by_cases hb : b = k
      · simpa [hb] using ih
      · simpa [List.lookup_cons, hb, beq_eq_false_iff_ne.2 hb] using ih
    · by_cases hb : b = k
      · subst hb
        simp [hk]
      · simpa [List.lookup_cons, hk, beq_eq_false_iff_ne.2 hb] using ih

theorem find?_insert (d : Directory) (a b : String) (i : Nat) :
    (d.insert a i).find? b = if b = a then some i else d.find? b := by
  have h := find?_erase d a b
  unfold find? at h ⊢
  unfold insert
  simp only [List.lookup_append, h]
  by_cases hb : b = a
  · simp [hb]
  · simp [hb, List.lookup_cons, beq_eq_false_iff_ne.2 hb]

end Directory

end StreamBalancer
