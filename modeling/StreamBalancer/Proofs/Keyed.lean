import Mathlib.Data.List.Nodup

/-!
# StreamBalancer.Proofs.Keyed

Lists in which no key comes twice, and what looking up, changing and removing the
element with a key do to them.
-/

namespace StreamBalancer.Keyed

variable {α κ : Type} [DecidableEq κ] {key : α → κ} {l : List α}

/-- The element with a key stands out: changing or removing what has its key
leaves the rest of the list as it is. -/
theorem split_of_find? (hnodup : (l.map key).Nodup) {k : κ} {x : α}
    (hfind : (l.find? fun y => key y == k) = some x) :
    ∃ front back, l = front ++ x :: back ∧ key x = k ∧
      (∀ change : α → α, (l.map fun y => if key y = k then change y else y) =
        front ++ change x :: back) ∧
      (l.filter fun y => key y ≠ k) = front ++ back := by
  obtain ⟨hkey, front, back, rfl, hfront⟩ := List.find?_eq_some_iff_append.1 hfind
  have hk : key x = k := by simpa using hkey
  rw [List.map_append, List.map_cons, List.nodup_middle, List.nodup_cons, hk] at hnodup
  have hne : ∀ y ∈ front ++ back, key y ≠ k := by
    intro y hy heq
    apply hnodup.1
    rw [← heq, ← List.map_append]
    exact List.mem_map_of_mem hy
  have hsame : ∀ (change : α → α) (ys : List α), (∀ y ∈ ys, y ∈ front ++ back) →
      (ys.map fun y => if key y = k then change y else y) = ys := by
    intro change ys hys
    refine (List.map_congr_left fun y hy => ?_).trans (List.map_id ys)
    exact if_neg (hne y (hys y hy))
  have hkeep : ∀ ys : List α, (∀ y ∈ ys, y ∈ front ++ back) → (ys.filter fun y => key y ≠ k) = ys := by
    intro ys hys
    exact List.filter_eq_self.2 fun y hy => decide_eq_true (hne y (hys y hy))
  refine ⟨front, back, rfl, hk, fun change => ?_, ?_⟩
  · rw [List.map_append, List.map_cons, if_pos hk,
      hsame change front fun y hy => List.mem_append_left back hy,
      hsame change back fun y hy => List.mem_append_right front hy]
  · rw [List.filter_append, List.filter_cons_of_neg (by simpa using hk),
      hkeep front fun y hy => List.mem_append_left back hy,
      hkeep back fun y hy => List.mem_append_right front hy]

end StreamBalancer.Keyed
