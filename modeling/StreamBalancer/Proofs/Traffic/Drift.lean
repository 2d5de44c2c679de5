import StreamBalancer.Proofs.Traffic.Owners

/-!
# StreamBalancer.Proofs.Traffic.Drift

The traffic in the course of a shutdown.

1. Once shutdown is signalled, a session may end although its slot waits for a tunnel; once the
   scheduler is gone, it closes the tunnel that it has, and reports are lost (`Drift`).  Each
   tunnel has one owner nevertheless (`Owned.drifts`).
2. A queue of tunnels may be lost with its reader.  They are then as if carried by somebody who
   never moves (`abandon`), and nobody else's steps depend on them (`Drift.abandon`).
-/

namespace StreamBalancer.Traffic

variable {v u : Traffic} {signalled stopped : Bool}

/-- One step of anybody, whether or not shutdown was signalled and the scheduler is gone. -/
inductive Drift (signalled stopped : Bool) : Traffic → Traffic → Prop where
  /-- A step as at any time. -/
  | moves {v u : Traffic} (h : Move v u) : Drift signalled stopped v u
  /-- Shutdown was signalled: a session ends without a tunnel. -/
  | ends (v : Traffic) (b i : Nat) (h : signalled = true) :
      Drift signalled stopped { v with seeking := (b, i) ::ₘ v.seeking } v
  /-- The scheduler is gone: a session closes its tunnel. -/
  | closes (v : Traffic) (x : Handover) (h : stopped = true) :
      Drift signalled stopped { v with carried := x ::ₘ v.carried } (v.close x.tunnel)
  /-- The scheduler is gone: nobody reads reports of broken tunnels any more. -/
  | forgets (v : Traffic) (xs : Multiset Failure) (h : stopped = true) :
      Drift signalled stopped { v with told := xs + v.told } v

/-- Before shutdown there are no other steps than usual. -/
theorem Drift.move (h : Drift false false v u) : Move v u := by
  cases h with
  | moves h => exact h
  | ends | closes | forgets => contradiction

/-- Whoever looks for a tunnel, or reports one, is no owner. -/
theorem Owned.of_same (h : v.Owned) (hinstances : u.instances = v.instances)
    (hcloses : u.closes = v.closes) (hcarried : u.carried = v.carried) (htaken : u.taken = v.taken)
    (hclosing : u.closing = v.closing) (hempties : u.empties = v.empties) : u.Owned := by
  obtain ⟨instances, closes, _, carried, taken, _, _, _, _, empties, closing⟩ := u
  obtain rfl := hinstances
  obtain rfl := hcloses
  obtain rfl := hcarried
  obtain rfl := htaken
  obtain rfl := hclosing
  obtain rfl := hempties
  exact ⟨h.once, h.emptying⟩

/-- Each tunnel has one owner during a shutdown, too. -/
theorem Owned.drifts (h : v.Owned) (hd : Drift signalled stopped v u) : u.Owned := by
  cases hd with
  | moves hm => exact h.moves hm
  | ends | forgets => exact h.of_same rfl rfl rfl rfl rfl rfl
  | closes v x => exact h.refuses.moves (.closes v x.tunnel)

/-! ## Tunnels that are lost -/

/-- With tunnels that somebody carries who never moves. -/
def abandon (v : Traffic) (xs : Multiset Handover) : Traffic :=
  { v with carried := xs + v.carried }

theorem abandon_zero (v : Traffic) : v.abandon 0 = v := by rw [abandon, zero_add]

theorem abandon_abandon (v : Traffic) (xs ys : Multiset Handover) :
    (v.abandon ys).abandon xs = v.abandon (xs + ys) := by
  simp only [abandon, add_assoc]

/-- Nobody depends on tunnels that are lost. -/
theorem Move.abandon (hm : Move v u) (xs : Multiset Handover) :
    Move (v.abandon xs) (u.abandon xs) := by
  cases hm with
  | same => exact .same _
  | looks _ h => exact .looks (v.abandon xs) h
  | passes _ b i => exact .passes (u.abandon xs) b i
  | replaces v h hflag hlive => exact .replaces (v.abandon xs) h hflag hlive
  | ignores _ f h => exact .ignores (u.abandon xs) f h
  | heeds v f => exact .heeds (v.abandon xs) f
  | unmarks _ h => exact .unmarks (u.abandon xs) h
  | asks v h hflag hlive => exact .asks (v.abandon xs) h hflag hlive
  | adds _ n => exact .adds (v.abandon xs) n
  | strikes _ h hlive => exact .strikes (v.abandon xs) h hlive
  | empties v h hdead => exact .empties (v.abandon xs) h hdead
  | skips _ h => exact .skips (u.abandon xs) h
  | closes v t => exact .closes (v.abandon xs) t
  | installs v x hslot hlive =>
      have hinstalls := Move.installs (v.abandon xs) x hslot hlive
      simp only [Traffic.abandon, ← Multiset.add_cons] at hinstalls ⊢
      exact hinstalls
  | refuses v x hwhy =>
      have hrefuses := Move.refuses (v.abandon xs) x hwhy
      simp only [Traffic.abandon, ← Multiset.add_cons] at hrefuses ⊢
      exact hrefuses
  | dials v b i =>
      have hdials := Move.dials (v.abandon xs) b i
      simp only [Traffic.abandon, ← Multiset.add_cons] at hdials ⊢
      exact hdials
  | quits _ h => exact .quits (u.abandon xs) h
  | evicts _ f h => exact .evicts (v.abandon xs) f h
  | shuts v f => exact .shuts (v.abandon xs) f
  | reports v f => exact .reports (v.abandon xs) f

theorem Drift.abandon (hd : Drift signalled stopped v u) (xs : Multiset Handover) :
    Drift signalled stopped (v.abandon xs) (u.abandon xs) := by
  cases hd with
  | moves hm => exact .moves (hm.abandon xs)
  | ends _ b i h => exact .ends (u.abandon xs) b i h
  | forgets _ ys h => exact .forgets (u.abandon xs) ys h
  | closes v x h =>
      have hcloses : Drift signalled stopped _ _ := .closes (v.abandon xs) x h
      simp only [Traffic.abandon, ← Multiset.add_cons] at hcloses ⊢
      exact hcloses

end StreamBalancer.Traffic
