import StreamBalancer.Proofs.Traffic.Drift
import StreamBalancer.Proofs.Traffic.Journey
import StreamBalancer.Proofs.Traffic.Slots

/-!
# StreamBalancer.Proofs.Traffic.Lapses

The traffic as long as the scheduler is there, when sessions may end early.

1. A session that ends without a tunnel is as good as one whose tunnel is lost on its way.
   So every slot in use is attended to, but for tunnels that are lost (`Lapsed.drifts`).
2. A tunnel that nobody carries any more gets no other slot (`Drift.rests`).
3. A tunnel was closed before its report is owed (`Shut.drifts`), so it is in no slot then.
-/

namespace StreamBalancer.Traffic

variable {v u : Traffic} {signalled : Bool}

/-- As long as the scheduler is there, a step is one as at any time, or a session ends
without a tunnel. -/
theorem Drift.running (hd : Drift signalled false v u) :
    Move v u ∨ ∃ b i, v = { u with seeking := (b, i) ::ₘ u.seeking } := by
  cases hd with
  | moves hm => exact .inl hm
  | ends _ b i => exact .inr ⟨b, i, rfl⟩
  | closes | forgets => contradiction

/-! ## Sessions that end early -/

/-- Every slot in use is attended to, but for tunnels that are lost. -/
def Lapsed (v : Traffic) : Prop := ∃ lost, (v.abandon lost).Settled

theorem Lapsed.drifts (h : v.Lapsed) (hd : Drift signalled false v u) : u.Lapsed := by
  obtain ⟨lost, hsettled⟩ := h
  obtain hm | ⟨b, i, rfl⟩ := hd.running
  · exact ⟨lost, hsettled.moves (hm.abandon lost)⟩
  · refine ⟨⟨b, i, 0⟩ ::ₘ lost, hsettled.of_same rfl fun c j => ?_⟩
    simp only [traffic, outstanding, reports, looked, abandon, Multiset.map_add, Multiset.map_cons,
      Multiset.count_add, Multiset.count_cons, Handover.place, Prod.mk.injEq, and_true]
    omega

/-- No tunnel is on its way to a slot that holds one and is not being replaced. -/
theorem Lapsed.outstanding_eq_zero (h : v.Lapsed) {b i : Nat} {x : Slot} (hlive : v.Live b)
    (hslot : v.slot? b i = some x) (hflag : x.replacing = false) (hsome : x.tunnel.isSome = true) :
    v.outstanding b i = 0 := by
  obtain ⟨lost, hsettled⟩ := h
  have hnone := (hsettled.attended b i x hlive hslot).settled hflag (.inl hsome)
  simp only [outstanding, abandon, Multiset.map_add, Multiset.count_add] at hnone ⊢
  omega

/-! ## Tunnels that nobody carries -/

/-- A tunnel that nobody carries is carried no more, and gets no other slot. -/
theorem Drift.rests (hd : Drift signalled false v u) {t : Nat} (hbearers : v.bearers t = 0)
    (hlt : t < v.closes.length) :
    u.bearers t = 0 ∧ u.seats t ≤ v.seats t ∧ t < u.closes.length := by
  obtain hm | ⟨b, i, rfl⟩ := hd.running
  · obtain ⟨hinstalled, hlength⟩ := hm.installed_add_bearers t
    rw [installed, if_pos hlt] at hinstalled
    omega
  · exact ⟨hbearers, Nat.le_refl _, hlt⟩

/-- A tunnel in a slot is carried by nobody. -/
theorem Owned.bearers_eq_zero (h : v.Owned) {b i t : Nat} (ht : v.tunnelAt b i = some t) :
    v.bearers t = 0 ∧ t < v.closes.length := by
  have honce := h.once t
  have hseat := v.seats_pos ht
  split at honce
  · exact ⟨by omega, by assumption⟩
  · omega

/-! ## Reports -/

/-- A tunnel of which a report is owed, or that is reported, was closed. -/
def Shut (v : Traffic) : Prop := ∀ t, v.owedOf t + v.toldOf t ≤ v.closesOf t

theorem Shut.drifts (h : v.Shut) (ho : v.Owned) (hd : Drift signalled false v u) : u.Shut := by
  obtain hm | ⟨b, i, rfl⟩ := hd.running
  · intro t
    have hbefore := h t
    have hstep := hm.reported_le_closes ho t
    rw [reported] at hstep
    omega
  · exact h

/-- Such a tunnel is in no slot. -/
theorem Shut.tunnelAt_ne (h : v.Shut) (ho : v.Owned) {f : Failure} (hf : f ∈ v.told) (b i : Nat) :
    v.tunnelAt b i ≠ some f.tunnel := by
  intro ht
  have honce := ho.once f.tunnel
  have hseat := v.seats_pos ht
  have hshut := h f.tunnel
  have htold : 0 < v.toldOf f.tunnel := Multiset.count_pos.2 (Multiset.mem_map_of_mem _ hf)
  split at honce <;> omega

end StreamBalancer.Traffic
