import StreamBalancer.Proofs.Traffic

/-!
# StreamBalancer.Proofs.Traffic.Slots

A slot of an instance that is in use is neither forgotten nor asked for twice.

1. One tunnel at most is on its way to a slot.  If the slot's flag is set, there is
   one.
2. If the flag is not set, there is none as long as the slot holds a tunnel, or a
   report that it was taken out is on its way, or the scheduler is looking at it;
   and there is one if the slot is empty and no report is on its way.
-/

namespace StreamBalancer.Traffic

variable (v : Traffic) {u : Traffic}

/-! ## Counting -/

/-- How many tunnels are on their way to a slot. -/
def outstanding (b i : Nat) : Nat :=
  v.seeking.count (b, i) + (v.carried.map Handover.place).count (b, i)

/-- How many reports of a slot are on their way. -/
def reports (b i : Nat) : Nat :=
  (v.taken.map Failure.place).count (b, i) + (v.owed.map Failure.place).count (b, i) +
    (v.told.map Failure.place).count (b, i) + v.marks.count (b, i)

/-- How often the scheduler is about to look at the tunnel of a slot. -/
def looked (b i : Nat) : Nat := v.weighs.count (b, i)

/-- A report that the scheduler is about to answer counts. -/
theorem reports_pos_of_mark (b i : Nat) :
    0 < ({ v with marks := (b, i) ::ₘ v.marks } : Traffic).reports b i := by
  simp only [reports, Multiset.count_cons_self]
  omega

/-- What is known of a slot: whether it is to be filled is known to exactly one
party. -/
structure Attended (x : Slot) (outstanding reports looked : Nat) : Prop where
  replacing : x.replacing = true → outstanding = 1
  settled : x.replacing = false → x.tunnel.isSome = true ∨ 0 < reports ∨ 0 < looked →
    outstanding = 0
  vacant : x.replacing = false → x.tunnel = none → reports = 0 → outstanding = 1

theorem Attended.le_one {x : Slot} {o r l : Nat} (h : Attended x o r l) : o ≤ 1 := by
  cases hflag : x.replacing with
  | true => exact Nat.le_of_eq (h.replacing hflag)
  | false =>
      by_cases hsettled : x.tunnel.isSome = true ∨ 0 < r ∨ 0 < l
      · rw [h.settled hflag hsettled]
        exact Nat.zero_le 1
      · simp only [not_or, Bool.not_eq_true, Option.isSome_eq_false_iff, Option.isNone_iff_eq_none,
          Nat.not_lt, Nat.le_zero] at hsettled
        exact Nat.le_of_eq (h.vacant hflag hsettled.1 hsettled.2.1)

/-- Every slot in use is attended to, and nothing is on its way to an instance that
does not exist. -/
structure Settled : Prop where
  attended : ∀ b i x, v.Live b → v.slot? b i = some x →
    Attended x (v.outstanding b i) (v.reports b i) (v.looked b i)
  known : ∀ b i, v.instances.length ≤ b →
    v.outstanding b i = 0 ∧ v.reports b i = 0 ∧ v.looked b i = 0

variable {v}

/-- What is on its way to or from a slot. -/
def traffic (v : Traffic) (b i : Nat) : Nat × Nat × Nat :=
  (v.outstanding b i, v.reports b i, v.looked b i)

theorem traffic_eq_iff {c j b i : Nat} :
    u.traffic c j = v.traffic b i ↔ u.outstanding c j = v.outstanding b i ∧
      u.reports c j = v.reports b i ∧ u.looked c j = v.looked b i := by
  simp only [traffic, Prod.mk.injEq]

/-- An instance to which something is on its way exists. -/
theorem Settled.lt_length (h : v.Settled) {b i : Nat}
    (hsome : 0 < v.outstanding b i ∨ 0 < v.reports b i ∨ 0 < v.looked b i) :
    b < v.instances.length := by
  by_contra hge
  have hnone := h.known b i (Nat.le_of_not_lt hge)
  omega

/-- A step that touches one slot keeps all slots attended to if it keeps that one. -/
theorem Settled.of_local (h : v.Settled) (b i : Nat) (hlt : b < v.instances.length)
    (hlive : ∀ c, u.Live c → v.Live c) (hlength : u.instances.length = v.instances.length)
    (hother : ∀ c j, (c, j) ≠ (b, i) → u.slot? c j = v.slot? c j ∧ u.traffic c j = v.traffic c j)
    (hhere : ∀ x, u.Live b → u.slot? b i = some x →
      Attended x (u.outstanding b i) (u.reports b i) (u.looked b i)) : u.Settled where
  attended c j x hc hx := by
    by_cases heq : (c, j) = (b, i)
    · obtain ⟨rfl, rfl⟩ := Prod.mk.inj heq
      exact hhere x hc hx
    · obtain ⟨hslot, htraffic⟩ := hother c j heq
      obtain ⟨houtstanding, hreports, hlooked⟩ := traffic_eq_iff.1 htraffic
      rw [houtstanding, hreports, hlooked]
      exact h.attended c j x (hlive c hc) (hslot ▸ hx)
  known c j hc := by
    rw [hlength] at hc
    have hne : (c, j) ≠ (b, i) := fun heq => by
      obtain ⟨rfl, -⟩ := Prod.mk.inj heq
      omega
    obtain ⟨houtstanding, hreports, hlooked⟩ := traffic_eq_iff.1 (hother c j hne).2
    rw [houtstanding, hreports, hlooked]
    exact h.known c j hc

/-- A step that changes one slot keeps all slots attended to if it keeps that one. -/
theorem Settled.of_setSlot (h : v.Settled) {b i : Nat} {y : Slot} (hy : v.slot? b i = some y)
    (change : Slot → Slot) (hinstances : u.instances = (v.setSlot b i change).instances)
    (hother : ∀ c j, (c, j) ≠ (b, i) → u.traffic c j = v.traffic c j)
    (hhere : v.Live b →
      Attended (change y) (u.outstanding b i) (u.reports b i) (u.looked b i)) : u.Settled := by
  have hlive (c : Nat) (hc : u.Live c) : v.Live c := by
    rw [Live, hinstances] at hc
    exact (v.live_setSlot b i c change).1 hc
  have hlength : u.instances.length = v.instances.length := by
    rw [hinstances]
    exact v.length_setSlot b i change
  have hslot (c j : Nat) : u.slot? c j = (v.setSlot b i change).slot? c j := by
    rw [slot?, hinstances]
    rfl
  refine h.of_local b i (v.lt_length_of_slot? hy) hlive hlength (fun c j hne => ⟨?_, hother c j hne⟩)
    fun x hb hx => ?_
  · rw [hslot, slot?_setSlot, if_neg fun heq => hne (Prod.ext heq.1 heq.2)]
  · rw [hslot, slot?_setSlot, if_pos ⟨rfl, rfl⟩, hy] at hx
    rw [← Option.some.inj hx]
    exact hhere (hlive b hb)

/-- A step that leaves instances and slots alone, and what is on its way as well. -/
theorem Settled.of_same (h : v.Settled) (hinstances : u.instances = v.instances)
    (htraffic : ∀ b i, u.traffic b i = v.traffic b i) : u.Settled where
  attended c j x hc hx := by
    obtain ⟨houtstanding, hreports, hlooked⟩ := traffic_eq_iff.1 (htraffic c j)
    rw [Live, hinstances] at hc
    rw [slot?, hinstances] at hx
    rw [houtstanding, hreports, hlooked]
    exact h.attended c j x hc hx
  known c j hc := by
    obtain ⟨houtstanding, hreports, hlooked⟩ := traffic_eq_iff.1 (htraffic c j)
    rw [houtstanding, hreports, hlooked]
    exact h.known c j (hinstances ▸ hc)

/-- Asking for a tunnel, which no other is on its way for. -/
theorem Settled.asks {w : Traffic} (h : w.Settled) {b i : Nat} {x : Slot}
    (hslot : w.slot? b i = some x) (hflag : x.replacing = false) (hlive : w.Live b)
    (hwhy : 0 < w.reports b i ∨ 0 < w.looked b i) (hinstances : v.instances = w.instances)
    (houtstanding : ∀ c j, v.outstanding c j = w.outstanding c j)
    (hother : ∀ c j, (c, j) ≠ (b, i) → v.traffic c j = w.traffic c j) : (v.ask b i).Settled := by
  have hslots : ∀ c j, v.slot? c j = w.slot? c j := fun c j => by rw [slot?, slot?, hinstances]
  refine h.of_local b i (w.lt_length_of_slot? hslot) (fun c hc => ?_) ?_ (fun c j hne => ⟨?_, ?_⟩)
    fun y _ hy => ?_
  · rw [live_ask, Live, hinstances] at hc
    exact hc
  · rw [← hinstances]
    exact v.length_setSlot b i _
  · rw [slot?_ask, if_neg fun heq => hne (Prod.ext heq.1 heq.2), hslots]
  · rw [← hother c j hne]
    simp [traffic, outstanding, reports, looked, ask, setSlot, Multiset.count_cons_of_ne hne]
  · rw [slot?_ask, if_pos ⟨rfl, rfl⟩, hslots, hslot, Option.map_some] at hy
    obtain rfl := Option.some.inj hy
    have hnone := (h.attended b i x hlive hslot).settled hflag (.inr hwhy)
    have hone : (v.ask b i).outstanding b i = v.outstanding b i + 1 := by
      simp only [outstanding, ask, setSlot, Multiset.count_cons_self]
      omega
    rw [houtstanding, hnone] at hone
    exact ⟨fun _ => hone, fun hno => by contradiction, fun hno => by contradiction⟩

/-- One tunnel is on its way to each slot of a new instance. -/
theorem outstanding_add (v : Traffic) (n c j : Nat) :
    (v.add n).outstanding c j =
      v.outstanding c j + if c = v.instances.length ∧ j < n then 1 else 0 := by
  have hinj : Function.Injective fun i : Nat => (v.instances.length, i) :=
    fun i k h => (Prod.mk.inj h).2
  have hcount : ((List.range n).map fun i => (v.instances.length, i) : Multiset (Nat × Nat)).count
      (c, j) = if c = v.instances.length ∧ j < n then 1 else 0 := by
    rw [Multiset.count_eq_of_nodup (Multiset.coe_nodup.2 (List.nodup_range.map hinj))]
    simp [and_comm, eq_comm]
  simp only [outstanding, add, Multiset.count_add, hcount]
  omega

theorem Settled.adds (h : v.Settled) (n : Nat) : (v.add n).Settled := by
  have hnew := outstanding_add v n
  refine ⟨fun c j x hc hx => ?_, fun c j hc => ?_⟩
  · rw [hnew]
    rw [slot?_add] at hx
    split at hx
    · next heq =>
      split at hx
      · next hj =>
        obtain rfl := Option.some.inj hx
        obtain ⟨houtstanding, hreports, hlooked⟩ := h.known c j (Nat.le_of_eq heq.symm)
        rw [houtstanding, if_pos ⟨heq, hj⟩]
        refine ⟨fun _ => rfl, fun _ hwhy => ?_, fun _ _ _ => rfl⟩
        obtain hsome | hpos | hpos := hwhy
        · contradiction
        · exact absurd hpos (Nat.not_lt.2 (Nat.le_of_eq hreports))
        · exact absurd hpos (Nat.not_lt.2 (Nat.le_of_eq hlooked))
      · contradiction
    · next hne =>
      rw [if_neg fun heq => hne heq.1]
      exact h.attended c j x (((live_add _ _ _).1 hc).resolve_right hne) hx
  · rw [add, List.length_append, List.length_singleton] at hc
    rw [hnew, if_neg fun heq => by omega]
    exact h.known c j (by omega)

/-- The only tunnel on its way to a slot arrives. -/
theorem Settled.installs {hd : Handover}
    (h : ({ v with carried := hd ::ₘ v.carried } : Traffic).Settled) {x : Slot}
    (hslot : v.slot? hd.backend hd.slot = some x) (hlive : v.Live hd.backend) :
    ({ v.setSlot hd.backend hd.slot fun _ => ⟨some hd.tunnel, false⟩ with
      closing := (x.tunnel.toList : Multiset Nat) + v.closing } : Traffic).Settled := by
  have hone := (h.attended hd.backend hd.slot x hlive hslot).le_one
  simp only [outstanding, Multiset.map_cons, Handover.place, Multiset.count_cons_self] at hone
  have hnone : v.outstanding hd.backend hd.slot = 0 := by
    rw [outstanding]
    omega
  refine h.of_setSlot hslot (fun _ => ⟨some hd.tunnel, false⟩) rfl (fun c j hne => ?_) fun _ => ?_
  · simp [traffic, outstanding, reports, looked, setSlot, Handover.place,
      Multiset.count_cons_of_ne hne]
  · exact ⟨fun hno => by contradiction, fun _ _ => hnone, fun _ hno => by contradiction⟩

/-- A slot from which a forward takes the tunnel is not being filled, and the forward
is to report it. -/
theorem Settled.evicts (h : v.Settled) {f : Failure}
    (ht : v.tunnelAt f.backend f.slot = some f.tunnel) :
    ({ v.setSlot f.backend f.slot fun x => { x with tunnel := none } with
      taken := f ::ₘ v.taken } : Traffic).Settled := by
  obtain ⟨y, hy, hyt⟩ := v.slot?_of_tunnelAt ht
  refine h.of_setSlot hy (fun x => { x with tunnel := none }) rfl (fun c j hne => ?_) fun hlive => ?_
  · simp [traffic, outstanding, reports, looked, setSlot, Failure.place,
      Multiset.count_cons_of_ne hne]
  · obtain ⟨hreplacing, hsettled, -⟩ := h.attended f.backend f.slot y hlive hy
    have hsome : y.tunnel.isSome = true := by rw [hyt, Option.isSome_some]
    refine ⟨hreplacing, fun hflag _ => hsettled hflag (.inl hsome), fun _ _ hno => ?_⟩
    simp [reports, Failure.place] at hno

/-- **Slots stay attended to**, whatever moves. -/
theorem Settled.moves (h : v.Settled) (hm : Move v u) : u.Settled := by
  cases hm with
  | same | skips | closes => exact ⟨h.attended, h.known⟩
  | @looks _ b i t ht =>
      obtain ⟨y, hy, hyt⟩ := v.slot?_of_tunnelAt ht
      refine h.of_local b i (v.lt_length_of_slot? hy) (fun _ hc => hc) rfl (fun c j hne => ⟨rfl, ?_⟩)
        fun x hlive hx => ?_
      · simp [traffic, outstanding, reports, looked, Multiset.count_cons_of_ne hne]
      · obtain ⟨hreplacing, hsettled, hvacant⟩ := h.attended b i x hlive hx
        refine ⟨hreplacing, fun hflag _ => hsettled hflag (.inl ?_), hvacant⟩
        have hxy : x = y := Option.some.inj (hx.symm.trans hy)
        rw [hxy, hyt, Option.isSome_some]
  | passes _ b i =>
      refine h.of_local b i (h.lt_length (i := i) ?_) (fun _ hc => hc) rfl (fun c j hne => ⟨rfl, ?_⟩)
        fun x hlive hx => ?_
      · simp [looked]
      · simp [traffic, outstanding, reports, looked, Multiset.count_cons_of_ne hne]
      · obtain ⟨hreplacing, hsettled, hvacant⟩ := h.attended b i x hlive hx
        refine ⟨hreplacing, fun hflag hwhy => hsettled hflag (hwhy.imp_right (.imp_right ?_)), hvacant⟩
        simp [looked]
  | @replaces v b i x hslot hflag hlive =>
      refine Settled.asks h hslot hflag hlive (.inr (by simp [looked])) rfl (fun _ _ => rfl) ?_
      intro c j hne
      simp [traffic, outstanding, reports, looked, Multiset.count_cons_of_ne hne]
  | @asks v b i x hslot hflag hlive =>
      refine Settled.asks h hslot hflag hlive (.inl (v.reports_pos_of_mark b i)) rfl
        (fun _ _ => rfl) ?_
      intro c j hne
      simp [traffic, outstanding, reports, looked, Multiset.count_cons_of_ne hne]
  | ignores _ f hwhy =>
      refine h.of_local f.backend f.slot (h.lt_length (i := f.slot) (.inr (.inl ?_)))
        (fun _ hc => hc) rfl (fun c j hne => ⟨rfl, ?_⟩) fun x hlive hx => ?_
      · simp only [reports, Multiset.map_cons, Failure.place, Multiset.count_cons_self]
        omega
      · simp [traffic, outstanding, reports, looked, Failure.place, Multiset.count_cons_of_ne hne]
      · obtain ⟨hreplacing, hsettled, hvacant⟩ := h.attended f.backend f.slot x hlive hx
        have hsome : x.tunnel.isSome = true := by
          have htunnel := hwhy hlive
          rw [tunnelAt, hx] at htunnel
          exact htunnel
        refine ⟨hreplacing, fun hflag _ => hsettled hflag (.inl hsome), fun _ hnone => ?_⟩
        rw [hnone] at hsome
        contradiction
  | heeds v f =>
      refine h.of_same rfl fun b i => ?_
      simp only [traffic, outstanding, reports, looked, Multiset.map_cons, Multiset.count_cons,
        Failure.place, Prod.mk.injEq, true_and, and_true]
      omega
  | @unmarks _ b i hflag =>
      refine h.of_local b i (h.lt_length (.inr (.inl (reports_pos_of_mark _ b i))))
        (fun _ hc => hc) rfl (fun c j hne => ⟨rfl, ?_⟩) fun x hlive hx => ?_
      · simp [traffic, outstanding, reports, looked, Multiset.count_cons_of_ne hne]
      · have hreplacing := (h.attended b i x hlive hx).replacing
        have hset := hflag x hx
        exact ⟨hreplacing, fun hno => by simp [hset] at hno, fun hno => by simp [hset] at hno⟩
  | adds _ n => exact h.adds n
  | @strikes _ b x hx hlive =>
      refine ⟨fun c j y hc hy => ?_, fun c j hc => ?_⟩
      · rw [slot?_retire] at hy
        exact h.attended c j y ((live_retire _ _ _ _).1 hc).1 hy
      · rw [retire, List.length_modify] at hc
        exact h.known c j hc
  | @empties v b i t ht hdead =>
      obtain ⟨y, hy, -⟩ := v.slot?_of_tunnelAt ht
      exact h.of_setSlot hy (fun x => { x with tunnel := none }) rfl (fun _ _ _ => rfl)
        fun hlive => absurd hlive hdead
  | installs v hd hslot hlive => exact h.installs hslot hlive
  | refuses v hd hwhy =>
      refine h.of_local hd.backend hd.slot (h.lt_length (i := hd.slot) (.inl ?_)) (fun _ hc => hc) rfl
        (fun c j hne => ⟨rfl, ?_⟩) fun x hlive hx => ?_
      · simp only [outstanding, Multiset.map_cons, Handover.place, Multiset.count_cons_self]
        omega
      · simp [traffic, outstanding, reports, looked, Handover.place, Multiset.count_cons_of_ne hne]
      · have hnone := hwhy hlive
        change v.slot? hd.backend hd.slot = some x at hx
        rw [hnone] at hx
        contradiction
  | dials _ b i =>
      refine h.of_same rfl fun c j => ?_
      simp only [traffic, outstanding, reports, looked, Multiset.map_cons, Multiset.count_cons,
        Handover.place, Prod.mk.injEq, and_true]
      omega
  | @quits _ b i hdead =>
      refine h.of_local b i (h.lt_length (i := i) (.inl ?_)) (fun _ hc => hc) rfl
        (fun c j hne => ⟨rfl, ?_⟩) fun x hlive _ => absurd hlive hdead
      · simp only [outstanding, Multiset.count_cons_self]
        omega
      · simp [traffic, outstanding, reports, looked, Multiset.count_cons_of_ne hne]
  | evicts _ f ht => exact h.evicts ht
  | shuts _ f | reports _ f =>
      refine h.of_same rfl fun b i => ?_
      simp only [traffic, outstanding, reports, looked, close, Multiset.map_cons,
        Multiset.count_cons, Prod.mk.injEq, true_and, and_true]
      omega

end StreamBalancer.Traffic
