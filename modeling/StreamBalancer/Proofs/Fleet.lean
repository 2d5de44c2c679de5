import StreamBalancer.Fleet

/-!
# StreamBalancer.Proofs.Fleet

Slots of a fleet, and what the operations on instances do to them.

* `markReplacing_cases` — asking to replace a tunnel sets the flag of the slot,
  unless it is set already or there is no such slot;
* `evict_cases` — an eviction empties the slot, or finds the tunnel gone.
-/

namespace StreamBalancer.Fleet

/-- A slot of an instance. -/
def slot? (f : Fleet) (b slot : Nat) : Option Slot := (f.backend? b).bind fun x => x.slots[slot]?

/-- The tunnel in a slot of an instance. -/
def tunnelAt (f : Fleet) (b slot : Nat) : Option Nat := (f.slot? b slot).bind Slot.tunnel

/-- Change a slot of an instance. -/
def modifySlot (f : Fleet) (b slot : Nat) (change : Slot → Slot) : Fleet :=
  f.modifyBackend b fun x => { x with slots := x.slots.modify slot change }

/-! ## Instances -/

theorem backend?_modifyBackend (f : Fleet) (b c : Nat) (change : Backend → Backend) :
    (f.modifyBackend b change).backend? c =
      if c = b then (f.backend? c).map change else f.backend? c := by
  simp only [backend?, modifyBackend, Array.getElem?_modify, eq_comm (a := b)]

/-- A change that leaves the instance as it is leaves the fleet as it is. -/
theorem modifyBackend_eq_self {f : Fleet} {b : Nat} {change : Backend → Backend}
    (h : ∀ x, f.backend? b = some x → change x = x) : f.modifyBackend b change = f := by
  have hsame : f.backends.modify b change = f.backends := by
    apply Array.ext_getElem?
    intro i
    rw [Array.getElem?_modify]
    split
    · next hi =>
      subst hi
      cases hx : f.backends[b]? with
      | none => rfl
      | some x => exact congrArg some (h x hx)
    · rfl
  rw [modifyBackend, hsame]

/-- What is counted for tunnels to be replaced leaves instances and tunnels alone. -/
theorem foldl_count_replaced (slots : List Nat) (f : Fleet) :
    (slots.foldl (fun f _ => f.count (.sessions .replaced)) f).backends = f.backends ∧
      (slots.foldl (fun f _ => f.count (.sessions .replaced)) f).tunnels = f.tunnels := by
  induction slots generalizing f with
  | nil => exact ⟨rfl, rfl⟩
  | cons slot rest ih => exact ih (f.count (.sessions .replaced))

/-- Two changes that do the same to the instance do the same to the fleet. -/
theorem modifyBackend_congr {f : Fleet} {b : Nat} {change change' : Backend → Backend}
    (h : ∀ x, f.backend? b = some x → change x = change' x) :
    f.modifyBackend b change = f.modifyBackend b change' := by
  have hsame : f.backends.modify b change = f.backends.modify b change' := by
    apply Array.ext_getElem?
    intro i
    rw [Array.getElem?_modify, Array.getElem?_modify]
    split
    · next hi =>
      subst hi
      cases hx : f.backends[b]? with
      | none => rfl
      | some x => exact congrArg some (h x hx)
    · rfl
  rw [modifyBackend, modifyBackend, hsame]

/-- What a change does not touch of an instance stays for all of them. -/
theorem map_modifyBackend {α : Type} {f : Fleet} {b : Nat} {change : Backend → Backend}
    (view : Backend → α) (h : ∀ x, f.backend? b = some x → view (change x) = view x) :
    (f.modifyBackend b change).backends.toList.map view = f.backends.toList.map view := by
  apply List.ext_getElem?
  intro i
  simp only [modifyBackend, List.getElem?_map, Array.getElem?_toList, Array.getElem?_modify]
  split
  · next hi =>
    subst hi
    cases hx : f.backends[b]? with
    | none => rfl
    | some x => exact congrArg some (h x hx)
  · rfl

/-! ## Slots -/

theorem slot?_modifySlot (f : Fleet) (b slot c other : Nat) (change : Slot → Slot) :
    (f.modifySlot b slot change).slot? c other =
      if c = b ∧ other = slot then (f.slot? c other).map change else f.slot? c other := by
  rw [slot?, slot?, modifySlot, backend?_modifyBackend]
  by_cases hc : c = b
  · subst hc
    cases f.backend? c with
    | none => simp
    | some x =>
        simp only [if_true, true_and, Option.map_some, Option.bind_some, List.getElem?_modify]
        by_cases hslot : other = slot
        · simp [hslot]
        · simp [hslot, Ne.symm hslot]
  · simp [hc]

/-- A change that does nothing to the slot does nothing to the fleet. -/
theorem modifySlot_eq_self {f : Fleet} {b slot : Nat} {change : Slot → Slot}
    (h : ∀ x, f.slot? b slot = some x → change x = x) : f.modifySlot b slot change = f := by
  apply modifyBackend_eq_self
  intro y hy
  have hslots : y.slots.modify slot change = y.slots := by
    apply List.ext_getElem?
    intro i
    rw [List.getElem?_modify]
    cases hx : y.slots[i]? with
    | none => rfl
    | some x =>
        by_cases hi : slot = i
        · subst hi
          have hchange := h x (by rw [slot?, hy]; exact hx)
          simp [hchange]
        · simp [hi]
  rw [hslots]

/-- Asking to replace a tunnel sets the flag of its slot, unless it is set or
there is no such slot. -/
theorem markReplacing_cases (f : Fleet) (b slot : Nat) :
    (f.slot? b slot = none ∧ f.markReplacing b slot = (none, f)) ∨
      (∃ x, f.slot? b slot = some x ∧ x.replacing = true ∧
        f.markReplacing b slot = (some false, f)) ∨
      (∃ x, f.slot? b slot = some x ∧ x.replacing = false ∧
        f.markReplacing b slot =
          (some true, f.modifySlot b slot fun y => { y with replacing := true })) := by
  have hmark : ∀ y, f.backend? b = some y → f.markReplacing b slot =
      ((f.slot? b slot).map fun x => !x.replacing,
        f.modifySlot b slot fun y => { y with replacing := true }) := by
    intro y hy
    rw [markReplacing, slot?, hy]
    rfl
  cases hy : f.backend? b with
  | none =>
      refine .inl ⟨by rw [slot?, hy]; rfl, ?_⟩
      rw [markReplacing, hy]
  | some y =>
      rw [hmark y hy]
      cases hx : f.slot? b slot with
      | none =>
          refine .inl ⟨rfl, ?_⟩
          rw [modifySlot_eq_self fun x hx' => by rw [hx] at hx'; contradiction]
          rfl
      | some x =>
          right
          cases hr : x.replacing with
          | true =>
              refine .inl ⟨x, rfl, hr, ?_⟩
              rw [modifySlot_eq_self fun z hz => by
                rw [hx] at hz
                rw [← Option.some.inj hz, ← hr]]
              rw [Option.map_some, hr]
              rfl
          | false =>
              refine .inr ⟨x, rfl, hr, ?_⟩
              rw [Option.map_some, hr]
              rfl

/-- Emptying a slot that holds the tunnel is what an eviction does. -/
theorem modifyBackend_evict {f : Fleet} {b slot tunnel : Nat}
    (h : f.tunnelAt b slot = some tunnel) :
    (f.modifyBackend b fun y => (y.evict slot tunnel).2) =
      f.modifySlot b slot fun x => { x with tunnel := none } := by
  apply modifyBackend_congr
  intro y hy
  have hslot : y.tunnel? slot = some tunnel := by
    rw [tunnelAt, slot?, hy] at h
    exact h
  simp only [Backend.evict, hslot, if_true]

/-- An eviction empties the slot that still holds the tunnel, or finds it gone
and changes nothing. -/
theorem evict_cases (f : Fleet) (b slot tunnel : Nat) :
    (f.tunnelAt b slot = some tunnel ∧
        f.evict b slot tunnel = (true, f.modifySlot b slot fun x => { x with tunnel := none })) ∨
      (f.tunnelAt b slot ≠ some tunnel ∧ f.evict b slot tunnel = (false, f)) := by
  by_cases hslot : f.tunnelAt b slot = some tunnel
  · refine .inl ⟨hslot, ?_⟩
    rw [← modifyBackend_evict hslot]
    rw [tunnelAt, slot?] at hslot
    rw [evict]
    cases hy : f.backend? b with
    | none =>
        rw [hy] at hslot
        contradiction
    | some y =>
        rw [hy] at hslot
        have hself : (y.evict slot tunnel).1 = true := by
          rw [Backend.evict, if_pos]
          exact hslot
        dsimp only
        rw [hself]
  · refine .inr ⟨hslot, ?_⟩
    rw [tunnelAt, slot?] at hslot
    rw [evict]
    cases hy : f.backend? b with
    | none => rfl
    | some y =>
        rw [hy] at hslot
        have hself : y.evict slot tunnel = (false, y) := if_neg hslot
        have hsame : (f.modifyBackend b fun y => (y.evict slot tunnel).2) = f := by
          apply modifyBackend_eq_self
          intro z hz
          rw [hy] at hz
          rw [← Option.some.inj hz, hself]
        dsimp only
        rw [hsame, hself]

/-- Putting a tunnel into a slot ends its replacement. -/
theorem modifyBackend_install (f : Fleet) (b slot tunnel : Nat) :
    (f.modifyBackend b fun y => y.install slot tunnel) =
      f.modifySlot b slot fun _ => ⟨some tunnel, false⟩ := by
  apply modifyBackend_congr
  intro y _
  rw [Backend.install]
  congr 1
  apply List.ext_getElem?
  intro i
  rw [List.getElem?_set, List.getElem?_modify]
  by_cases hi : slot = i
  · subst hi
    cases hx : y.slots[slot]? with
    | none =>
        rw [if_pos rfl, if_neg (Nat.not_lt.2 (List.getElem?_eq_none_iff.1 hx))]
        rfl
    | some x =>
        rw [if_pos rfl, if_pos (List.getElem?_eq_some_iff.1 hx).1]
        simp
  · simp [hi]

end StreamBalancer.Fleet
