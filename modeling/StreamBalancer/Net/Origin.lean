import StreamBalancer.Tunnel

/-!
# StreamBalancer.Net.Origin

Where the far end of a route comes from, and the labels of far ends.  A label
names the origin and counts, with at least two digits, the far ends of that
origin in the order in which clients get to know them.
-/

namespace StreamBalancer

/-- The origin of a far end. -/
inductive Origin where
  /-- A service at an address. -/
  | service (address : String)
  /-- A tunnel that does not tell where it leads. -/
  | tunnel (number : Nat)
deriving DecidableEq, Repr

namespace Origin

/-- A number with at least two digits. -/
private def twoDigits (n : Nat) : String := if n < 10 then "0" ++ toString n else toString n

/-- The label of an origin's far end, for a count or its placeholder. -/
private def labelWith (count : String) : Origin → String
  | service address => address ++ "#" ++ count
  | tunnel number => "T" ++ toString number ++ "." ++ count

/-- The label of the far end with a count. -/
def label (o : Origin) (count : Nat) : String := o.labelWith (twoDigits count)

/-- The common label of the far ends that no client knows. -/
def unknownLabel (o : Origin) : String := o.labelWith "--"

/-- The far end of a stream of a tunnel with a number. -/
def ofStream (number : Nat) (t : Tunnel) : Origin :=
  match t.answer with
  | .relay (.tcp address) => service address
  | _ => tunnel number

/-- What a far end sends first. -/
def greeting (label : String) : String := label ++ "\n"

end Origin

/-- How many far ends of each origin have a label. -/
structure LabelCounts where
  /-- The counts of the origins seen. -/
  counts : List (Origin × Nat) := []
deriving Repr, Inhabited

namespace LabelCounts

/-- The next label of an origin. -/
def next (c : LabelCounts) (o : Origin) : String × LabelCounts :=
  let n := (c.counts.lookup o).getD 0
  (o.label n, ⟨(o, n + 1) :: c.counts.filter fun e => e.1 ≠ o⟩)

end LabelCounts

end StreamBalancer
