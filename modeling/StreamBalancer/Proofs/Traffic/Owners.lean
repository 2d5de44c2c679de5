import StreamBalancer.Proofs.Traffic

/-!
# StreamBalancer.Proofs.Traffic.Owners

Each tunnel has one owner and is closed at most once.

1. Of the slots that hold a tunnel, the parties that carry it, those about to close
   it and the times it was closed there is one in all (`Owned.once`).
2. A slot of an instance that was given up holds a tunnel only as long as the
   scheduler has yet to empty it (`Owned.emptying`).
-/

namespace StreamBalancer.Traffic

variable (v : Traffic) {u : Traffic}

/-! ## Counting -/

/-- How many slots hold a tunnel. -/
def seats (t : Nat) : Nat := (v.instances.map fun x => x.slots.countP (·.tunnel == some t)).sum

/-- How many parties carry a tunnel. -/
def bearers (t : Nat) : Nat := (v.carried.map Handover.tunnel).count t

/-- How many parties are about to close a tunnel. -/
def closers (t : Nat) : Nat := v.closing.count t + (v.taken.map Failure.tunnel).count t

/-- How often a tunnel was closed. -/
def closesOf (t : Nat) : Nat := v.closes[t]?.getD 0

/-- Changing an element of a list changes its count by that element. -/
theorem countP_modify {α : Type} (p : α → Bool) (change : α → α) {l : List α} {i : Nat} {x : α}
    (h : l[i]? = some x) :
    (l.modify i change).countP p + (if p x then 1 else 0) =
      l.countP p + if p (change x) then 1 else 0 := by
  induction l generalizing i with
  | nil => contradiction
  | cons y rest ih =>
      cases i with
      | zero =>
          obtain rfl := Option.some.inj h
          simp only [List.modify_zero_cons, List.countP_cons]
          omega
      | succ i =>
          have hrest := ih (i := i) h
          simp only [List.modify_succ_cons, List.countP_cons]
          omega

/-- Changing an element of a list changes its sum by that element. -/
theorem sum_map_modify {α : Type} (measure : α → Nat) (change : α → α) {l : List α} {i : Nat} {x : α}
    (h : l[i]? = some x) :
    ((l.modify i change).map measure).sum + measure x = (l.map measure).sum + measure (change x) := by
  induction l generalizing i with
  | nil => contradiction
  | cons y rest ih =>
      cases i with
      | zero =>
          obtain rfl := Option.some.inj h
          simp only [List.modify_zero_cons, List.map_cons, List.sum_cons]
          omega
      | succ i =>
          have hrest := ih (i := i) h
          simp only [List.modify_succ_cons, List.map_cons, List.sum_cons]
          omega

/-- A change of a slot moves its tunnel out, and another one in. -/
theorem seats_setSlot {b i : Nat} {x : Slot} (change : Slot → Slot) (h : v.slot? b i = some x)
    (t : Nat) :
    (v.setSlot b i change).seats t + (if x.tunnel = some t then 1 else 0) =
      v.seats t + if (change x).tunnel = some t then 1 else 0 := by
  obtain ⟨y, hy, hx⟩ := Option.bind_eq_some_iff.1 h
  have hsum := sum_map_modify (fun x : Instance => x.slots.countP (·.tunnel == some t))
    (fun x => { x with slots := x.slots.modify i change }) hy
  have hcount := countP_modify (fun s : Slot => s.tunnel == some t) change hx
  simp only [beq_iff_eq] at hcount
  simp only [seats, setSlot] at *
  omega

theorem seats_add (n t : Nat) : (v.add n).seats t = v.seats t := by
  simp [seats, add, List.countP_replicate]

theorem seats_retire (b n t : Nat) : (v.retire b n).seats t = v.seats t := by
  cases hx : v.instances[b]? with
  | none => simp [seats, retire, List.modify_eq_self (List.getElem?_eq_none_iff.1 hx)]
  | some x =>
      have hsum := sum_map_modify (fun x : Instance => x.slots.countP (·.tunnel == some t))
        (fun x => { x with retired := true }) hx
      simp only [seats, retire] at *
      omega

theorem seats_pos {b i t : Nat} (h : v.tunnelAt b i = some t) : 0 < v.seats t := by
  obtain ⟨x, hslot, ht⟩ := v.slot?_of_tunnelAt h
  have hclear := v.seats_setSlot (fun x => { x with tunnel := none }) hslot t
  simp only [ht, if_true, reduceCtorEq, if_false] at hclear
  omega

/-- A tunnel with a seat is in some slot. -/
theorem exists_of_seats_pos {t : Nat} (h : 0 < v.seats t) : ∃ b i, v.tunnelAt b i = some t := by
  obtain ⟨n, hn, hpos⟩ := List.sum_pos_iff_exists_pos_nat.1 h
  obtain ⟨x, hx, rfl⟩ := List.mem_map.1 hn
  obtain ⟨s, hs, ht⟩ := List.countP_pos_iff.1 hpos
  obtain ⟨b, hb⟩ := List.mem_iff_getElem?.1 hx
  obtain ⟨i, hi⟩ := List.mem_iff_getElem?.1 hs
  refine ⟨b, i, ?_⟩
  rw [tunnelAt, slot?, hb, Option.bind_some, hi, Option.bind_some]
  exact eq_of_beq ht

/-- A tunnel in two places has two seats. -/
theorem one_lt_seats {b i c j t : Nat} (hb : v.tunnelAt b i = some t) (hc : v.tunnelAt c j = some t)
    (hne : (b, i) ≠ (c, j)) : 1 < v.seats t := by
  obtain ⟨x, hslot, ht⟩ := v.slot?_of_tunnelAt hb
  have hclear := v.seats_setSlot (fun x => { x with tunnel := none }) hslot t
  have hthere : (v.setSlot b i fun x => { x with tunnel := none }).tunnelAt c j = some t := by
    rw [tunnelAt_setSlot, if_neg fun heq => hne (Prod.ext heq.1.symm heq.2.symm)]
    exact hc
  have hpos := seats_pos _ hthere
  simp only [ht, if_true, reduceCtorEq, if_false] at hclear
  omega

/-- Asking to replace a tunnel leaves it where it is. -/
theorem seats_ask {b i : Nat} {x : Slot} (h : v.slot? b i = some x) (t : Nat) :
    (v.ask b i).seats t = v.seats t :=
  Nat.add_right_cancel (v.seats_setSlot (fun x => { x with replacing := true }) h t)

/-- Emptying a slot takes its tunnel out. -/
theorem seats_empty {b i t : Nat} (h : v.tunnelAt b i = some t) (c : Nat) :
    (v.setSlot b i fun x => { x with tunnel := none }).seats c + (if c = t then 1 else 0) =
      v.seats c := by
  obtain ⟨x, hslot, ht⟩ := v.slot?_of_tunnelAt h
  have hclear := v.seats_setSlot (fun x => { x with tunnel := none }) hslot c
  simpa [ht, eq_comm] using hclear

theorem closesOf_close (t c : Nat) :
    (v.close t).closesOf c = v.closesOf c + if c = t ∧ t < v.closes.length then 1 else 0 := by
  simp only [closesOf, close, List.getElem?_modify]
  by_cases hc : c = t
  · subst hc
    by_cases hlt : c < v.closes.length
    · simp [hlt]
    · simp [hlt]
  · simp [hc, Ne.symm hc]

/-! ## Ownership -/

/-- Each tunnel has one owner, or was closed. -/
structure Owned : Prop where
  once : ∀ t, v.seats t + v.bearers t + v.closers t + v.closesOf t =
    if t < v.closes.length then 1 else 0
  emptying : ∀ b i, ¬v.Live b → (v.tunnelAt b i).isSome = true → (b, i) ∈ v.empties

variable {v}

theorem Owned.asks (h : v.Owned) {b i : Nat} {x : Slot} (hslot : v.slot? b i = some x) :
    (v.ask b i).Owned where
  once t := by
    rw [v.seats_ask hslot]
    exact h.once t
  emptying c j hlive hsome := by
    rw [live_ask] at hlive
    rw [tunnelAt_ask] at hsome
    exact h.emptying c j hlive hsome

theorem Owned.adds (h : v.Owned) (n : Nat) : (v.add n).Owned where
  once t := by
    rw [seats_add]
    exact h.once t
  emptying c j hlive hsome := by
    rw [live_add, not_or] at hlive
    rw [tunnelAt, slot?_add, if_neg hlive.2] at hsome
    exact h.emptying c j hlive.1 hsome

theorem Owned.strikes (h : v.Owned) {b : Nat} {x : Instance} (hx : v.instances[b]? = some x) :
    (v.retire b x.slots.length).Owned where
  once t := by
    rw [seats_retire]
    exact h.once t
  emptying c j hlive hsome := by
    rw [tunnelAt, slot?_retire, ← tunnelAt] at hsome
    rw [live_retire] at hlive
    refine Multiset.mem_add.2 ?_
    by_cases hc : c = b
    · subst hc
      left
      obtain ⟨t, ht⟩ := Option.isSome_iff_exists.1 hsome
      obtain ⟨y, hy, -⟩ := v.slot?_of_tunnelAt ht
      rw [slot?, hx] at hy
      exact List.mem_map_of_mem (List.mem_range.2 (List.getElem?_eq_some_iff.1 hy).1)
    · right
      exact h.emptying c j (fun hl => hlive ⟨hl, hc⟩) hsome

/-- Emptying a slot hands its tunnel over to whoever is about to close it. -/
theorem Owned.clears (h : v.Owned) {b i t : Nat} (htunnel : v.tunnelAt b i = some t)
    (hinstances : u.instances = (v.setSlot b i fun x => { x with tunnel := none }).instances)
    (hcarried : u.carried = v.carried) (hcloses : u.closes = v.closes)
    (hclosers : ∀ c, u.closers c = v.closers c + if c = t then 1 else 0)
    (hempties : ∀ c j, (c, j) ∈ v.empties → (c = b ∧ j = i) ∨ (c, j) ∈ u.empties) : u.Owned where
  once c := by
    have honce := h.once c
    have hseats := v.seats_empty htunnel c
    have hsame : u.seats c = (v.setSlot b i fun x => { x with tunnel := none }).seats c := by
      rw [seats, seats, hinstances]
    rw [hclosers, bearers, hcarried, closesOf, hcloses, ← bearers, ← closesOf]
    omega
  emptying c j hlive hsome := by
    rw [Live, hinstances, ← Live, live_setSlot] at hlive
    rw [tunnelAt, slot?, hinstances, ← slot?, ← tunnelAt, tunnelAt_setSlot] at hsome
    split at hsome
    · cases hy : v.slot? c j <;> simp [hy] at hsome
    · next hne => exact (hempties c j (h.emptying c j hlive hsome)).resolve_left hne

/-- A tunnel that somebody is about to close exists. -/
theorem Owned.lt_of_closers (h : v.Owned) {t : Nat} (ht : 0 < v.closers t) : t < v.closes.length := by
  have honce := h.once t
  by_contra hge
  rw [if_neg hge] at honce
  omega

/-- Closing a tunnel discharges whoever was about to. -/
theorem Owned.closes (h : v.Owned) {t : Nat} (hinstances : u.instances = v.instances)
    (hcarried : u.carried = v.carried) (hcloses : u.closes = v.closes.modify t (· + 1))
    (hempties : u.empties = v.empties)
    (hclosers : ∀ c, u.closers c + (if c = t then 1 else 0) = v.closers c) : u.Owned where
  once c := by
    have honce := h.once c
    have hclosed := v.closesOf_close t c
    have hlt : t < v.closes.length := h.lt_of_closers (by
      rw [← hclosers t, if_pos rfl]
      exact Nat.succ_pos _)
    have hclosesOf : u.closesOf c = (v.close t).closesOf c := by rw [closesOf, hcloses, close, closesOf]
    have hcount := hclosers c
    rw [seats, hinstances, ← seats, bearers, hcarried, ← bearers, hcloses, List.length_modify]
    simp only [hlt, and_true] at hclosed
    omega
  emptying c j hlive hsome := by
    rw [hempties]
    rw [Live, hinstances] at hlive
    rw [tunnelAt, slot?, hinstances] at hsome
    exact h.emptying c j hlive hsome

/-- A tunnel that is put into a slot goes from its bearer to the slot, and the one
before from the slot to whoever is about to close it. -/
theorem Owned.installs {hd : Handover} {x : Slot}
    (h : Owned { v with carried := hd ::ₘ v.carried })
    (hslot : v.slot? hd.backend hd.slot = some x) (hlive : v.Live hd.backend) :
    Owned { v.setSlot hd.backend hd.slot fun _ => ⟨some hd.tunnel, false⟩ with
      closing := (x.tunnel.toList : Multiset Nat) + v.closing } where
  once c := by
    refine Eq.trans ?_ (h.once c)
    have hseats := v.seats_setSlot (fun _ => ⟨some hd.tunnel, false⟩) hslot c
    have hold : (x.tunnel.toList : Multiset Nat).count c = if x.tunnel = some c then 1 else 0 := by
      cases x.tunnel with
      | none => rfl
      | some t => simp [Multiset.count_singleton, eq_comm]
    simp only [seats, bearers, closers, closesOf, Multiset.map_cons, Multiset.count_cons,
      Multiset.count_add, Option.some.injEq, eq_comm (a := hd.tunnel), hold] at *
    simp only [setSlot] at *
    omega
  emptying c j hdead hsome := by
    have hdead' : ¬v.Live c := by
      rw [← v.live_setSlot hd.backend hd.slot c fun _ => ⟨some hd.tunnel, false⟩]
      exact hdead
    have hne : ¬(c = hd.backend ∧ j = hd.slot) := fun heq => hdead' (heq.1 ▸ hlive)
    have htunnel := v.tunnelAt_setSlot hd.backend hd.slot c j fun _ => ⟨some hd.tunnel, false⟩
    rw [if_neg hne] at htunnel
    exact h.emptying c j hdead' (htunnel ▸ hsome)

/-- A tunnel that nobody has a use for goes from its bearer to whoever is about to close
it. -/
theorem Owned.refuses {hd : Handover} (h : Owned { v with carried := hd ::ₘ v.carried }) :
    Owned { v with closing := hd.tunnel ::ₘ v.closing } where
  once c := by
    have honce := h.once c
    simp only [seats, bearers, closers, closesOf, Multiset.map_cons, Multiset.count_cons] at *
    omega
  emptying := h.emptying

theorem Owned.moves (h : v.Owned) (hm : Move v u) : u.Owned := by
  cases hm with
  | same => exact h
  | looks | passes | ignores | heeds | unmarks | quits | reports => exact ⟨h.once, h.emptying⟩
  | replaces v hslot => exact Owned.asks (v := v) ⟨h.once, h.emptying⟩ hslot
  | asks v hslot => exact Owned.asks (v := v) ⟨h.once, h.emptying⟩ hslot
  | adds => exact h.adds _
  | strikes _ hx => exact h.strikes hx
  | empties v ht =>
      refine h.clears ht rfl rfl rfl (fun c => ?_) fun c j hmem => ?_
      · simp only [closers, setSlot, Multiset.count_cons]
        omega
      · simpa [setSlot] using hmem
  | skips _ hnone =>
      refine ⟨h.once, fun c j hlive hsome => ?_⟩
      obtain heq | hmem := Multiset.mem_cons.1 (h.emptying c j hlive hsome)
      · obtain ⟨rfl, rfl⟩ := Prod.mk.inj heq
        rw [hnone] at hsome
        contradiction
      · exact hmem
  | closes v t =>
      refine Owned.closes h rfl rfl rfl rfl fun c => ?_
      simp only [closers, close, Multiset.count_cons]
      omega
  | installs v hd hslot hlive => exact h.installs hslot hlive
  | refuses v hd => exact h.refuses
  | dials v b i =>
      refine ⟨fun c => ?_, h.emptying⟩
      have honce := h.once c
      have hnew : (v.closes ++ [0])[c]?.getD 0 = v.closes[c]?.getD 0 := by
        rw [List.getElem?_append]
        split
        · rfl
        · next hge =>
          rw [List.getElem?_eq_none (Nat.le_of_not_lt hge), List.getElem?_singleton]
          split <;> rfl
      simp only [seats, bearers, closers, closesOf, Multiset.map_cons, Multiset.count_cons,
        List.length_append, List.length_singleton, hnew] at *
      split_ifs at * <;> omega
  | evicts v f ht =>
      refine h.clears ht rfl rfl rfl (fun c => ?_) fun c j hmem => .inr hmem
      simp only [closers, setSlot, Multiset.map_cons, Multiset.count_cons]
      omega
  | shuts v f =>
      refine Owned.closes h rfl rfl rfl rfl fun c => ?_
      simp only [closers, close, Multiset.map_cons, Multiset.count_cons]
      omega

end StreamBalancer.Traffic
