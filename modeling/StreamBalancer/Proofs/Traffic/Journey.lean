import StreamBalancer.Proofs.Traffic.Owners

/-!
# StreamBalancer.Proofs.Traffic.Journey

The journey of a tunnel: how often it is put into a slot, taken out of it, closed and
reported, and by whom.

1. A tunnel is put into a slot by its bearer, and a bearer it gets once, when it is
   dialed (`Move.installed_add_bearers`).
2. It stays in its slot until somebody takes it out (`Move.stays`).
3. The forward that takes it out closes it and then reports it, and nobody else
   does (`Move.reported_eq`, `Move.reported_le_closes`).
4. An instance whose slots were emptied for good gets no tunnel again
   (`Emptied.moves`).
-/

namespace StreamBalancer.Traffic

variable {v u : Traffic}

/-! ## Counting -/

/-- How often a step puts a tunnel into a slot. -/
def installed (t : Nat) (v u : Traffic) : Nat := u.seats t - v.seats t

/-- How often a step takes a tunnel out of its slot. -/
def displaced (t : Nat) (v u : Traffic) : Nat := v.seats t - u.seats t

/-- In how many hands a tunnel is that forwards took out and have not closed. -/
def takenOf (v : Traffic) (t : Nat) : Nat := (v.taken.map Failure.tunnel).count t

/-- How many reports of a tunnel forwards owe. -/
def owedOf (v : Traffic) (t : Nat) : Nat := (v.owed.map Failure.tunnel).count t

/-- How many reports of a tunnel the scheduler is not done with. -/
def toldOf (v : Traffic) (t : Nat) : Nat := (v.told.map Failure.tunnel).count t

/-- How many forwards take a tunnel out of its slot in a step. -/
def evicted (t : Nat) (v u : Traffic) : Nat := u.takenOf t - v.takenOf t

/-- How often a step reports a tunnel. -/
def reported (t : Nat) (v u : Traffic) : Nat := u.toldOf t - v.toldOf t

/-- A step that puts no tunnel into a slot and makes none. -/
theorem quiet_installed_add_bearers {t : Nat} (hseats : u.seats t ≤ v.seats t)
    (hbearers : u.bearers t ≤ v.bearers t) (hcloses : u.closes.length = v.closes.length) :
    installed t v u + u.bearers t ≤
        v.bearers t + (if t < v.closes.length then 0 else if t < u.closes.length then 1 else 0) ∧
      v.closes.length ≤ u.closes.length := by
  rw [installed]
  omega

/-- A tunnel is put into a slot by its bearer, and gets a bearer when it is dialed. -/
theorem Move.installed_add_bearers (hm : Move v u) (t : Nat) :
    installed t v u + u.bearers t ≤
        v.bearers t + (if t < v.closes.length then 0 else if t < u.closes.length then 1 else 0) ∧
      v.closes.length ≤ u.closes.length := by
  cases hm with
  | same | looks | passes | ignores | heeds | unmarks | skips | quits | reports =>
      exact quiet_installed_add_bearers (Nat.le_refl _) (Nat.le_refl _) rfl
  | replaces v hslot =>
      exact quiet_installed_add_bearers (Nat.le_of_eq (v.seats_ask hslot t)) (Nat.le_refl _) rfl
  | asks v hslot =>
      exact quiet_installed_add_bearers (Nat.le_of_eq (v.seats_ask hslot t)) (Nat.le_refl _) rfl
  | adds _ n =>
      exact quiet_installed_add_bearers (Nat.le_of_eq (v.seats_add n t)) (Nat.le_refl _) rfl
  | strikes _ hx =>
      exact quiet_installed_add_bearers (Nat.le_of_eq (v.seats_retire _ _ t)) (Nat.le_refl _) rfl
  | empties v ht =>
      have hseats := v.seats_empty ht t
      exact quiet_installed_add_bearers (Nat.le_of_add_right_le (Nat.le_of_eq hseats))
        (Nat.le_refl _) rfl
  | evicts _ f ht =>
      have hseats := v.seats_empty ht t
      exact quiet_installed_add_bearers (Nat.le_of_add_right_le (Nat.le_of_eq hseats))
        (Nat.le_refl _) rfl
  | closes | shuts =>
      exact quiet_installed_add_bearers (Nat.le_refl _) (Nat.le_refl _) (List.length_modify _ _ _)
  | refuses v hd =>
      refine quiet_installed_add_bearers (Nat.le_refl _) ?_ rfl
      simp only [bearers, Multiset.map_cons, Multiset.count_cons]
      omega
  | installs v hd hslot =>
      have hseats := v.seats_setSlot (fun _ => ⟨some hd.tunnel, false⟩) hslot t
      simp only [installed, seats, bearers, setSlot, Multiset.map_cons, Multiset.count_cons,
        Option.some.injEq, eq_comm (a := hd.tunnel)] at *
      omega
  | dials v b i =>
      simp only [installed, seats, bearers, Multiset.map_cons, Multiset.count_cons,
        List.length_append, List.length_singleton]
      split_ifs <;> omega

/-- A tunnel that a forward takes is taken out of a slot. -/
theorem Move.evicted_le_displaced (hm : Move v u) (t : Nat) : evicted t v u ≤ displaced t v u := by
  cases hm with
  | evicts _ f ht =>
      have hseats := v.seats_empty ht t
      simp only [evicted, displaced, takenOf, seats, setSlot, Multiset.map_cons,
        Multiset.count_cons] at *
      omega
  | _ =>
      simp only [evicted, takenOf, add, retire, ask, setSlot, close, Multiset.map_cons,
        Multiset.count_cons]
      omega

/-- A tunnel that a forward takes is to be reported, and no other is. -/
theorem Move.reported_eq (hm : Move v u) (t : Nat) :
    u.takenOf t + u.owedOf t + reported t v u = v.takenOf t + v.owedOf t + evicted t v u := by
  cases hm with
  | same | looks | passes | replaces | unmarks | asks | adds | strikes | skips | closes | refuses
  | dials | quits => simp [reported, evicted, takenOf, owedOf, toldOf, add, retire, ask, setSlot, close]
  | empties | installs => simp [reported, evicted, takenOf, owedOf, toldOf, setSlot]
  | ignores v f | heeds v f =>
      simp only [reported, evicted, takenOf, owedOf, toldOf, Multiset.map_cons, Multiset.count_cons]
      omega
  | evicts v f | shuts v f | reports v f =>
      simp only [reported, evicted, takenOf, owedOf, toldOf, setSlot, close, Multiset.map_cons,
        Multiset.count_cons]
      omega

/-- A seat is taken or given up. -/
theorem seats_add_installed (t : Nat) (v u : Traffic) :
    v.seats t + installed t v u = u.seats t + displaced t v u := by
  rw [installed, displaced]
  omega

/-- A forward closes a tunnel before it reports it. -/
theorem Move.reported_le_closes (ho : v.Owned) (hm : Move v u) (t : Nat) :
    u.owedOf t + reported t v u + v.closesOf t ≤ v.owedOf t + u.closesOf t := by
  have hquiet : u.owedOf t ≤ v.owedOf t → u.toldOf t ≤ v.toldOf t → v.closesOf t ≤ u.closesOf t →
      u.owedOf t + reported t v u + v.closesOf t ≤ v.owedOf t + u.closesOf t := by
    intro howed htold hcloses
    rw [reported, Nat.sub_eq_zero_of_le htold]
    omega
  cases hm with
  | same | looks | passes | replaces | unmarks | asks | adds | strikes | skips | refuses | quits
  | empties | installs | evicts =>
      exact hquiet (Nat.le_refl _) (Nat.le_refl _) (Nat.le_refl _)
  | ignores v f | heeds v f =>
      refine hquiet (Nat.le_refl _) ?_ (Nat.le_refl _)
      simp only [toldOf, Multiset.map_cons, Multiset.count_cons]
      omega
  | dials v b i =>
      refine hquiet (Nat.le_refl _) (Nat.le_refl _) ?_
      simp only [closesOf, List.getElem?_append]
      split
      · exact Nat.le_refl _
      · next hge =>
        rw [List.getElem?_eq_none (Nat.le_of_not_lt hge)]
        exact Nat.zero_le _
  | closes v c =>
      refine hquiet (Nat.le_refl _) (Nat.le_refl _) ?_
      have hclosed := v.closesOf_close c t
      change v.closesOf t ≤ (v.close c).closesOf t
      omega
  | shuts v f =>
      have hclosed := v.closesOf_close f.tunnel t
      have hlt : f.tunnel < v.closes.length := ho.lt_of_closers (by
        simp only [closers, Multiset.map_cons, Multiset.count_cons_self]
        omega)
      have hcloses : closesOf { v.close f.tunnel with owed := f ::ₘ v.owed } t =
          (v.close f.tunnel).closesOf t := rfl
      have hbefore : closesOf { v with taken := f ::ₘ v.taken } t = v.closesOf t := rfl
      rw [hcloses, hclosed, hbefore]
      simp only [hlt, and_true, reported, owedOf, toldOf, close, Multiset.map_cons,
        Multiset.count_cons, Nat.sub_self]
      omega
  | reports v f =>
      change owedOf { v with told := f ::ₘ v.told } t + _ + v.closesOf t ≤ _ + v.closesOf t
      simp only [reported, owedOf, toldOf, Multiset.map_cons, Multiset.count_cons]
      omega

/-! ## Slots -/

/-- A tunnel stays in its slot until it is taken out. -/
theorem Move.stays (ho : v.Owned) (hm : Move v u) {b i t : Nat} (ht : v.tunnelAt b i = some t) :
    u.tunnelAt b i = some t ∨ 0 < displaced t v u := by
  -- the slot that is changed, if it is not the slot of the tunnel
  have hother : ∀ {w : Traffic} {c j : Nat} {change : Slot → Slot},
      w.tunnelAt b i = some t → ¬(b = c ∧ i = j) → (w.setSlot c j change).tunnelAt b i = some t := by
    intro w c j change hw hne
    rw [tunnelAt_setSlot, if_neg hne]
    exact hw
  have hempties : ∀ {w : Traffic} {c j d : Nat}, w.tunnelAt b i = some t → w.tunnelAt c j = some d →
      (w.setSlot c j fun x => { x with tunnel := none }).tunnelAt b i = some t ∨
        (w.setSlot c j fun x => { x with tunnel := none }).seats t < w.seats t := by
    intro w c j d hw hd
    by_cases heq : b = c ∧ i = j
    · obtain ⟨rfl, rfl⟩ := heq
      obtain rfl := Option.some.inj (hw.symm.trans hd)
      have hseats := w.seats_empty hw t
      rw [if_pos rfl] at hseats
      exact .inr (by omega)
    · exact .inl (hother hw heq)
  cases hm with
  | same | looks | passes | ignores | heeds | unmarks | skips | closes | refuses | dials | quits
  | shuts | reports => exact .inl ht
  | replaces v | asks v => exact .inl ((v.tunnelAt_ask _ _ b i).trans ht)
  | adds _ n =>
      left
      obtain ⟨x, hslot, -⟩ := v.slot?_of_tunnelAt ht
      rw [tunnelAt, slot?_add, if_neg (Nat.ne_of_lt (v.lt_length_of_slot? hslot))]
      exact ht
  | strikes =>
      left
      rw [tunnelAt, slot?_retire]
      exact ht
  | empties v htunnel hdead => exact (hempties (w := v) ht htunnel).imp_right Nat.sub_pos_of_lt
  | evicts _ f htunnel => exact (hempties ht htunnel).imp_right Nat.sub_pos_of_lt
  | installs v hd hslot hlive =>
      by_cases heq : b = hd.backend ∧ i = hd.slot
      · right
        obtain ⟨rfl, rfl⟩ := heq
        obtain ⟨y, hy, hyt⟩ := v.slot?_of_tunnelAt ht
        obtain rfl := Option.some.inj (hslot.symm.trans hy)
        have hseats := v.seats_setSlot (fun _ => ⟨some hd.tunnel, false⟩) hslot t
        have hne : hd.tunnel ≠ t := by
          rintro rfl
          have honce := ho.once hd.tunnel
          have hseat := seats_pos _ ht
          have hbearer : 0 < bearers { v with carried := hd ::ₘ v.carried } hd.tunnel := by
            simp [bearers]
          split at honce <;> omega
        rw [if_pos hyt, if_neg fun heq => hne (Option.some.inj heq)] at hseats
        refine Nat.sub_pos_of_lt ?_
        change (v.setSlot hd.backend hd.slot fun _ => ⟨some hd.tunnel, false⟩).seats t < v.seats t
        omega
      · exact .inl (hother (w := v) ht heq)

/-! ## Instances that were given up -/

/-- An instance was given up and its slots were emptied. -/
def Emptied (v : Traffic) (b : Nat) : Prop :=
  (∃ x, v.instances[b]? = some x ∧ x.retired = true) ∧ ∀ i, (b, i) ∉ v.empties

/-- No slot of such an instance holds a tunnel. -/
theorem Emptied.tunnelAt_eq_none {b : Nat} (h : v.Emptied b) (ho : v.Owned) (i : Nat) :
    v.tunnelAt b i = none := by
  obtain ⟨⟨x, hx, hretired⟩, hempties⟩ := h
  cases ht : v.tunnelAt b i with
  | none => rfl
  | some t =>
      have hdead : ¬v.Live b := by
        rintro ⟨y, hy, hlive⟩
        obtain rfl := Option.some.inj (hx.symm.trans hy)
        rw [hretired] at hlive
        contradiction
      exact absurd (ho.emptying b i hdead (by rw [ht]; rfl)) (hempties i)

/-- Changing a slot brings no instance back. -/
theorem retired_setSlot {b : Nat} (h : ∃ x, v.instances[b]? = some x ∧ x.retired = true)
    (c j : Nat) (change : Slot → Slot) :
    ∃ x, (v.setSlot c j change).instances[b]? = some x ∧ x.retired = true := by
  obtain ⟨x, hx, hretired⟩ := h
  rw [setSlot, List.getElem?_modify, hx]
  by_cases hc : c = b
  · exact ⟨{ x with slots := x.slots.modify j change }, by simp [hc], hretired⟩
  · exact ⟨x, by simp [hc], hretired⟩

/-- **An instance that was given up and emptied stays so.** -/
theorem Emptied.moves {b : Nat} (h : v.Emptied b) (hm : Move v u) : u.Emptied b := by
  obtain ⟨hretired, hempties⟩ := h
  cases hm with
  | same | looks | passes | ignores | heeds | unmarks | closes | refuses | dials | quits | shuts
  | reports => exact ⟨hretired, hempties⟩
  | replaces v | asks v | evicts =>
      exact ⟨retired_setSlot hretired _ _ _, hempties⟩
  | installs v => exact ⟨retired_setSlot (v := v) hretired _ _ _, hempties⟩
  | empties v =>
      exact ⟨retired_setSlot (v := v) hretired _ _ _,
        fun i hi => hempties i (Multiset.mem_cons_of_mem hi)⟩
  | skips => exact ⟨hretired, fun i hi => hempties i (Multiset.mem_cons_of_mem hi)⟩
  | adds _ n =>
      obtain ⟨x, hx, hold⟩ := hretired
      have hlt := (List.getElem?_eq_some_iff.1 hx).1
      exact ⟨⟨x, (List.getElem?_append_left hlt).trans hx, hold⟩, hempties⟩
  | @strikes _ c y hy hlive =>
      obtain ⟨x, hx, hold⟩ := hretired
      have hne : c ≠ b := by
        rintro rfl
        obtain rfl := Option.some.inj (hx.symm.trans hy)
        rw [hlive] at hold
        contradiction
      refine ⟨⟨x, ?_, hold⟩, fun i hi => ?_⟩
      · rw [retire, List.getElem?_modify, hx]
        simp [hne]
      · obtain hi | hi := Multiset.mem_add.1 hi
        · obtain ⟨j, -, heq⟩ := List.mem_map.1 hi
          exact hne (Prod.mk.inj heq).1
        · exact hempties i hi

end StreamBalancer.Traffic
