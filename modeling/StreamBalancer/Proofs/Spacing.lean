import Mathlib.Data.List.Chain
import Mathlib.Data.List.Induction
import Mathlib.Data.List.NodupEquivFin
import Mathlib.Order.WellFounded
import Mathlib.Tactic.Ring

/-!
# StreamBalancer.Proofs.Spacing

Times that keep their distance, the latest first.

1. `ClearOf gap slack times t`: the time `t` leaves a gap after the latest of the others, two
   gaps after the one before, and so on, but for a slack that does not add up.
2. `Spaced gap slack times`: each time is so clear of those before it.
3. There are only so many of them in any stretch of time (`Spaced.count_le`).
-/

namespace StreamBalancer

/-- Whether a time comes late enough after others, the latest first. -/
def ClearOf (gap slack : Nat) (times : List Nat) (t : Nat) : Prop :=
  ∀ i u, times[i]? = some u → u + (i + 1) * gap ≤ t + slack

namespace ClearOf

variable {gap slack t u v : Nat} {times others : List Nat}

theorem nil : ClearOf gap slack [] t := by
  intro i u h
  simp at h

/-- A gap after the latest of them. -/
theorem head_le (h : ClearOf gap slack (u :: times) t) : u + gap ≤ t + slack := by
  simpa using h 0 u rfl

/-- One more of them, and a later time. -/
theorem cons (h : ClearOf gap slack times t) (hlatest : u + gap ≤ v + slack) (hgap : t + gap ≤ v) :
    ClearOf gap slack (u :: times) v := by
  intro i x hx
  cases i with
  | zero =>
      obtain rfl := Option.some.inj hx
      simpa using hlatest
  | succ i =>
      have hbefore := h i x hx
      have hsplit : (i + 1 + 1) * gap = (i + 1) * gap + gap := by ring
      omega

theorem mono (h : ClearOf gap slack times t) (hle : t ≤ v) : ClearOf gap slack times v := by
  intro i x hx
  have := h i x hx
  omega

/-- Fewer of them lie further apart. -/
theorem sublist (h : ClearOf gap slack times t) (hsub : others.Sublist times) :
    ClearOf gap slack others t := by
  obtain ⟨place, hplace⟩ := List.sublist_iff_exists_orderEmbedding_getElem?_eq.1 hsub
  intro i x hx
  have hfar := h (place i) x ((hplace i).symm.trans hx)
  have hle : i ≤ place i := place.strictMono.le_apply
  have hmul : (i + 1) * gap ≤ (place i + 1) * gap := Nat.mul_le_mul_right gap (by omega)
  omega

end ClearOf

/-- Whether times are so far apart, the latest first. -/
def Spaced (gap slack : Nat) : List Nat → Prop
  | [] => True
  | t :: earlier => ClearOf gap slack earlier t ∧ Spaced gap slack earlier

namespace Spaced

variable {gap slack : Nat} {times others : List Nat}

theorem sublist (h : Spaced gap slack times) (hsub : others.Sublist times) :
    Spaced gap slack others := by
  induction hsub with
  | slnil => exact h
  | cons _ _ ih => exact ih h.2
  | cons_cons _ hrest ih => exact ⟨h.1.sublist hrest, ih h.2⟩

/-- Times that each leave a gap after the one before. -/
theorem of_isChain (h : times.IsChain fun next previous => previous + gap ≤ next) :
    Spaced gap 0 times := by
  induction times with
  | nil => trivial
  | cons t earlier ih =>
      rw [List.isChain_cons] at h
      have hspaced := ih h.2
      refine ⟨?_, hspaced⟩
      cases earlier with
      | nil => exact .nil
      | cons u earlier => exact hspaced.1.cons (h.1 u rfl) (h.1 u rfl)

/-- **A stretch of time holds only so many of them**: with one gap less than times, all of it but
the slack is used up. -/
theorem count_le (h : Spaced gap slack times) (a b : Nat) :
    ((times.filter fun t => a ≤ t ∧ t ≤ b).length - 1) * gap ≤ b - a + slack := by
  have hwithin : ∀ t ∈ times.filter fun t => a ≤ t ∧ t ≤ b, a ≤ t ∧ t ≤ b := by
    intro t ht
    simpa using (List.mem_filter.1 ht).2
  have hspaced : Spaced gap slack (times.filter fun t => a ≤ t ∧ t ≤ b) :=
    h.sublist List.filter_sublist
  generalize times.filter (fun t => a ≤ t ∧ t ≤ b) = some at hwithin hspaced
  cases some with
  | nil => simp
  | cons latest rest =>
      cases rest using List.reverseRecOn with
      | nil => simp
      | append_singleton rest first =>
          have hfirst := hwithin first (by simp)
          have hlatest := hwithin latest (by simp)
          have hclear := hspaced.1 rest.length first (by simp)
          simp only [List.length_cons, List.length_append, List.length_nil, Nat.add_sub_cancel,
            Nat.zero_add]
          omega

end Spaced

end StreamBalancer
