import Mathlib.Data.List.Nodup
import StreamBalancer.Pool

/-!
# StreamBalancer.Proofs.Pool.Positions

The pool and its remembered positions stay in step, whatever the order says.
Nothing here asks `less` to be an order, or to be the same from one operation to
the next: the sifting only ever exchanges entries, and an exchange keeps the two
in step.

* `Rearranged` — what sifting among the first entries of a heap can do;
* `push_indexed`, `pop_some`, `remove_some`, `update_indexed` — one statement for
  each operation: which item comes or goes, and that positions stay exact;
* `erase_of_contains` — taking an item out by its remembered position takes out
  that very item.
-/

namespace StreamBalancer.Pool

/-- Items in the heap remember their positions, and the others have none. -/
def Indexed (p : Pool) : Prop := ∀ item i, p.position? item = some i ↔ p.items[i]? = some item

theorem indexed_empty : ({} : Pool).Indexed := by
  intro item i
  simp [position?, Registry.get?]

/-- An item stands at one position at most. -/
theorem Indexed.position_unique {p : Pool} (h : p.Indexed) {i j item : Nat}
    (hi : p.items[i]? = some item) (hj : p.items[j]? = some item) : i = j := by
  have h1 := (h item i).2 hi
  have h2 := (h item j).2 hj
  rw [h1] at h2
  exact Option.some.inj h2

theorem Indexed.nodup {p : Pool} (h : p.Indexed) : p.items.toList.Nodup := by
  rw [List.nodup_iff_getElem?_ne_getElem?]
  intro i j hij hj heq
  rw [Array.length_toList] at hj
  simp only [Array.getElem?_toList] at heq
  rw [Array.getElem?_eq_getElem hj] at heq
  have := h.position_unique heq (Array.getElem?_eq_getElem hj)
  omega

/-- An item that makes the others up to the whole is not one of them. -/
theorem Indexed.not_mem_of_perm {p : Pool} (h : p.Indexed) {xs : Array Nat} {item : Nat}
    (hperm : p.items.Perm (xs.push item)) : item ∉ xs := by
  have hnodup := (Array.perm_iff_toList_perm.1 hperm).nodup_iff.1 h.nodup
  rw [Array.toList_push, List.nodup_append] at hnodup
  exact fun hmem => hnodup.2.2 item (Array.mem_toList_iff.2 hmem) item (List.mem_singleton_self item) rfl

/-- The remembered position tells whether an item is in the heap. -/
theorem Indexed.contains_iff {p : Pool} (h : p.Indexed) (item : Nat) :
    p.contains item = true ↔ item ∈ p.items := by
  rw [contains, Option.isSome_iff_exists, Array.mem_iff_getElem?]
  exact exists_congr fun i => h item i

/-! ## Setting positions -/

@[simp] theorem position?_setPosition (p : Pool) (item other : Nat) (position : Option Nat) :
    (p.setPosition item position).position? other =
      if other = item then position else p.position? other :=
  Registry.get?_put _ _ _ _

@[simp] theorem items_setPosition (p : Pool) (item : Nat) (position : Option Nat) :
    (p.setPosition item position).items = p.items := rfl

@[simp] theorem items_settle (p : Pool) (i : Nat) : (p.settle i).items = p.items := by
  unfold settle
  split <;> rfl

theorem position?_settle {p : Pool} {i item : Nat} (h : p.items[i]? = some item) (other : Nat) :
    (p.settle i).position? other = if other = item then some i else p.position? other := by
  simp only [settle, h, position?_setPosition]

/-! ## Exchanging entries -/

@[simp] theorem items_swap (p : Pool) (i j : Nat) :
    (p.swap i j).items = p.items.swapIfInBounds i j := by
  simp [swap]

theorem getElem?_swap {p : Pool} {i j : Nat} (hi : i < p.size) (hj : j < p.size) (k : Nat) :
    (p.swap i j).items[k]? =
      if k = j then p.items[i]? else if k = i then p.items[j]? else p.items[k]? := by
  have hi' : i < p.items.size := hi
  have hj' : j < p.items.size := hj
  rw [items_swap, Array.swapIfInBounds_def, dif_pos hi', dif_pos hj', Array.getElem?_swap,
    Array.getElem?_eq_getElem hi', Array.getElem?_eq_getElem hj']
  simp only [eq_comm (a := j), eq_comm (a := i)]

theorem perm_swap (p : Pool) (i j : Nat) : (p.swap i j).items.Perm p.items := by
  rw [items_swap, Array.swapIfInBounds_def]
  split
  · split
    · exact Array.swap_perm _ _
    · exact .rfl
  · exact .rfl

/-- An exchange sets the positions of the two items, and of no other. -/
theorem position?_swap {p : Pool} {i j x y : Nat} (hi : p.items[i]? = some x)
    (hj : p.items[j]? = some y) (item : Nat) :
    (p.swap i j).position? item =
      if item = x then some j else if item = y then some i else p.position? item := by
  have hi' : i < p.size := (Array.getElem?_eq_some_iff.1 hi).1
  have hj' : j < p.size := (Array.getElem?_eq_some_iff.1 hj).1
  have hswap := fun k => getElem?_swap hi' hj' k
  simp only [items_swap] at hswap
  have atj : (p.items.swapIfInBounds i j)[j]? = some x := by rw [hswap, if_pos rfl, hi]
  have ati : (p.items.swapIfInBounds i j)[i]? = some y := by
    rw [hswap]
    split
    · next hij => rw [hi, ← hj, ← hij, hi]
    · rw [if_pos rfl, hj]
  rw [swap, position?_settle (by simpa using atj), position?_settle ati]
  rfl

theorem Indexed.swap {p : Pool} (h : p.Indexed) {i j : Nat} (hi : i < p.size) (hj : j < p.size) :
    (p.swap i j).Indexed := by
  obtain ⟨x, hx⟩ : ∃ x, p.items[i]? = some x := ⟨_, Array.getElem?_eq_getElem hi⟩
  obtain ⟨y, hy⟩ : ∃ y, p.items[j]? = some y := ⟨_, Array.getElem?_eq_getElem hj⟩
  intro item k
  rw [position?_swap hx hy, getElem?_swap hi hj, hx, hy]
  by_cases hix : item = x
  · subst hix
    rw [if_pos rfl]
    constructor
    · intro hk
      obtain rfl := Option.some.inj hk
      rw [if_pos rfl]
    · intro hk
      split at hk
      · next hkj => rw [hkj]
      · next hkj =>
        split at hk
        · next hki => exact absurd (hki.trans (h.position_unique hx (hy.trans hk))) hkj
        · next hki => exact absurd (h.position_unique hk hx) hki
  · rw [if_neg hix]
    by_cases hiy : item = y
    · subst hiy
      rw [if_pos rfl]
      constructor
      · intro hk
        obtain rfl := Option.some.inj hk
        split
        · next hij => rw [← hx, hij, hy]
        · rw [if_pos rfl]
      · intro hk
        split at hk
        · exact absurd (Option.some.inj hk).symm hix
        · next hkj =>
          split at hk
          · next hki => rw [hki]
          · exact absurd (h.position_unique hk hy) hkj
    · rw [if_neg hiy]
      constructor
      · intro hk
        have hk' := (h item k).1 hk
        split
        · next hkj => rw [hkj, hy] at hk'; exact absurd (Option.some.inj hk').symm hiy
        · split
          · next hki => rw [hki, hx] at hk'; exact absurd (Option.some.inj hk').symm hix
          · exact hk'
      · intro hk
        split at hk
        · exact absurd (Option.some.inj hk).symm hix
        · split at hk
          · exact absurd (Option.some.inj hk).symm hiy
          · exact (h item k).2 hk

/-! ## Sifting -/

/-- The first `n` entries were exchanged among each other, positions included. -/
structure Rearranged (n : Nat) (p q : Pool) : Prop where
  perm : q.items.Perm p.items
  beyond : ∀ k, n ≤ k → q.items[k]? = p.items[k]?
  indexed : p.Indexed → q.Indexed

namespace Rearranged

variable {n : Nat} {p q r : Pool}

theorem refl (n : Nat) (p : Pool) : Rearranged n p p := ⟨.rfl, fun _ _ => rfl, id⟩

theorem trans (h : Rearranged n p q) (h' : Rearranged n q r) : Rearranged n p r where
  perm := h'.perm.trans h.perm
  beyond k hk := (h'.beyond k hk).trans (h.beyond k hk)
  indexed hp := h'.indexed (h.indexed hp)

theorem size_eq (h : Rearranged n p q) : q.size = p.size := h.perm.size_eq

theorem swap {i j : Nat} (hi : i < n) (hj : j < n) (hn : n ≤ p.size) :
    Rearranged n p (p.swap i j) where
  perm := perm_swap p i j
  beyond k hk := by
    rw [getElem?_swap (by omega) (by omega), if_neg (by omega), if_neg (by omega)]
  indexed hp := hp.swap (by omega) (by omega)

end Rearranged

theorem rearranged_siftUp (less : Nat → Nat → Bool) {n : Nat} (p : Pool) (i : Nat) (hi : i < n)
    (hn : n ≤ p.size) : Rearranged n p (p.siftUp less i) := by
  induction p, i using siftUp.induct less with
  | case1 p => rw [siftUp, if_pos rfl]; exact .refl n p
  | case2 p i h0 hless ih =>
    rw [siftUp, if_neg h0, if_pos hless]
    have step : Rearranged n p (p.swap ((i - 1) / 2) i) := .swap (by omega) hi hn
    exact step.trans (ih (by omega) (by rw [step.size_eq]; exact hn))
  | case3 p i h0 hless => rw [siftUp, if_neg h0, if_neg hless]; exact .refl n p

theorem rearranged_siftDown (less : Nat → Nat → Bool) {n : Nat} (p : Pool) (i : Nat)
    (hn : n ≤ p.size) : Rearranged n p (p.siftDown less i n).1 := by
  induction p, i using siftDown.induct less n with
  | case1 p i hchild =>
    rw [siftDown]
    split <;> simp_all [Rearranged.refl]
  | case2 p i c hchild hless ih =>
    have hbounds := firstChild?_bounds hchild
    have step : Rearranged n p (p.swap i c) := .swap (by omega) hbounds.2 hn
    have rest := ih (by rw [step.size_eq]; exact hn)
    rw [siftDown]
    split <;> simp_all
    exact step.trans rest
  | case3 p i c hchild hless =>
    rw [siftDown]
    split <;> simp_all [Rearranged.refl]

theorem rearranged_restore (less : Nat → Nat → Bool) {n : Nat} (p : Pool) (i : Nat) (hi : i < n)
    (hn : n ≤ p.size) : Rearranged n p (p.restore less i n) := by
  have down := rearranged_siftDown less p i hn
  unfold restore
  split
  next q j heq =>
    rw [heq] at down
    split
    · exact down
    · exact down.trans (rearranged_siftUp less q i hi (by rw [down.size_eq]; exact hn))

/-! ## Items that come and go -/

theorem Indexed.append {p : Pool} (h : p.Indexed) {item : Nat} (hitem : item ∉ p.items) :
    (({ p with items := p.items.push item } : Pool).setPosition item (some p.size)).Indexed := by
  intro other i
  simp only [position?_setPosition, items_setPosition, Array.getElem?_push]
  by_cases ho : other = item
  · subst ho
    rw [if_pos rfl]
    constructor
    · intro hi
      obtain rfl := Option.some.inj hi
      exact if_pos rfl
    · intro hi
      split at hi
      · next hsize => rw [hsize]; rfl
      · exact absurd (Array.mem_of_getElem? hi) hitem
  · rw [if_neg ho]
    constructor
    · intro hi
      have hi' := (h other i).1 hi
      rw [if_neg (Nat.ne_of_lt (Array.getElem?_eq_some_iff.1 hi').1)]
      exact hi'
    · intro hi
      split at hi
      · exact absurd (Option.some.inj hi).symm ho
      · exact (h other i).2 hi

/-- Putting an item in appends it and sifts it up. -/
theorem push_rearranged (less : Nat → Nat → Bool) (p : Pool) (item : Nat) :
    Rearranged (p.size + 1)
      (({ p with items := p.items.push item } : Pool).setPosition item (some p.size))
      (p.push less item) :=
  rearranged_siftUp less _ p.size (by omega) (by simp [size])

/-- **Putting in**: the item is in the heap, and positions stay exact. -/
theorem push_indexed (less : Nat → Nat → Bool) {p : Pool} (h : p.Indexed) {item : Nat}
    (hitem : item ∉ p.items) :
    (p.push less item).Indexed ∧ (p.push less item).items.Perm (p.items.push item) := by
  have sift := push_rearranged less p item
  exact ⟨sift.indexed (h.append hitem), sift.perm⟩

theorem mem_push (less : Nat → Nat → Bool) (p : Pool) (item other : Nat) :
    other ∈ (p.push less item).items ↔ other ∈ p.items ∨ other = item :=
  (push_rearranged less p item).perm.mem_iff.trans Array.mem_push

/-- A pool with an item is not empty. -/
theorem isEmpty_eq_false_of_mem {p : Pool} {item : Nat} (h : item ∈ p.items) : p.isEmpty = false := by
  rw [isEmpty, Array.isEmpty_eq_false_iff]
  exact Array.ne_empty_of_mem h

/-- Taking the last entry out takes out its item and its position. -/
theorem takeLast_of_back {p : Pool} {item : Nat} (hlast : p.items.back? = some item) :
    ∃ q, p.takeLast = (some item, q) ∧ (p.Indexed → q.Indexed) ∧
      p.items.Perm (q.items.push item) := by
  rw [Array.back?_eq_getElem?] at hlast
  have hsize : p.items.size - 1 < p.items.size := (Array.getElem?_eq_some_iff.1 hlast).1
  refine ⟨({ p with items := p.items.pop } : Pool).setPosition item none, ?_, ?_, ?_⟩
  · rw [takeLast, Array.back?_eq_getElem?, hlast]
  · intro h other i
    simp only [position?_setPosition, items_setPosition, Array.getElem?_pop]
    by_cases ho : other = item
    · subst ho
      rw [if_pos rfl]
      constructor
      · intro hi
        contradiction
      · intro hi
        split at hi
        · next hlt => exact absurd (h.position_unique hi hlast) (by omega)
        · contradiction
    · rw [if_neg ho]
      constructor
      · intro hi
        have hi' := (h other i).1 hi
        have hlt := (Array.getElem?_eq_some_iff.1 hi').1
        rw [if_pos]
        · exact hi'
        · by_contra hge
          have : i = p.items.size - 1 := by omega
          rw [this, hlast] at hi'
          exact ho (Option.some.inj hi').symm
      · intro hi
        split at hi
        · exact (h other i).2 hi
        · contradiction
  · obtain ⟨front, last, hpush⟩ := Array.eq_push_of_size_ne_zero (Nat.ne_of_gt (Nat.zero_lt_of_lt hsize))
    rw [hpush, Array.size_push, Nat.add_sub_cancel, Array.getElem?_push_size] at hlast
    rw [items_setPosition, hpush, Array.pop_push, Option.some.inj hlast]

/-- Any entry can be exchanged with the last one, sifted around it and taken out. -/
theorem takeLast_rearranged {p q : Pool} {i item : Nat} (hi : p.items[i]? = some item)
    (hq : Rearranged (p.size - 1) (p.swap i (p.size - 1)) q) :
    ∃ r, q.takeLast = (some item, r) ∧ (p.Indexed → r.Indexed) ∧
      p.items.Perm (r.items.push item) := by
  have hlt : i < p.size := (Array.getElem?_eq_some_iff.1 hi).1
  have hsize : q.items.size = p.items.size :=
    hq.perm.size_eq.trans (perm_swap p i (p.size - 1)).size_eq
  have hlast : q.items.back? = some item := by
    rw [Array.back?_eq_getElem?, hsize]
    have hbeyond := hq.beyond (p.size - 1) (Nat.le_refl _)
    rw [getElem?_swap hlt (by omega), if_pos rfl, hi] at hbeyond
    exact hbeyond
  obtain ⟨r, htake, hr, hperm⟩ := takeLast_of_back hlast
  refine ⟨r, htake, fun h => hr (hq.indexed (h.swap hlt (by omega))), ?_⟩
  exact ((hq.perm.trans (perm_swap p i (p.size - 1))).symm).trans hperm

/-- The top is what comes out on top, and the others stay. -/
theorem pop_of_top (less : Nat → Nat → Bool) {p : Pool} {item : Nat}
    (htop : p.items[0]? = some item) :
    ∃ q, p.pop less = (some item, q) ∧ (p.Indexed → q.Indexed) ∧
      p.items.Perm (q.items.push item) := by
  have hlt : 0 < p.items.size := (Array.getElem?_eq_some_iff.1 htop).1
  have hempty : p.isEmpty = false := by
    rw [isEmpty, Array.isEmpty_eq_false_iff]
    exact Array.ne_empty_of_size_pos hlt
  have hsize : (p.swap 0 (p.size - 1)).size = p.size := (perm_swap p 0 (p.size - 1)).size_eq
  have sift := rearranged_siftDown less (n := p.size - 1) (p.swap 0 (p.size - 1)) 0 (by omega)
  rw [pop, hempty]
  exact takeLast_rearranged htop sift

/-- **Taking out the top**: it is the item at position zero, and positions stay
exact. -/
theorem pop_some (less : Nat → Nat → Bool) {p : Pool} (h : p.Indexed) {item : Nat}
    (htop : p.items[0]? = some item) :
    ∃ q, p.pop less = (some item, q) ∧ q.Indexed ∧ p.items.Perm (q.items.push item) := by
  obtain ⟨q, hpop, hq, hperm⟩ := pop_of_top less htop
  exact ⟨q, hpop, hq h, hperm⟩

/-- As long as there are items, one of them is on top. -/
theorem exists_top {p : Pool} (h : p.isEmpty = false) : ∃ item, p.items[0]? = some item := by
  rw [isEmpty, Array.isEmpty_eq_false_iff] at h
  exact ⟨_, Array.getElem?_eq_getElem (Array.size_pos_iff.2 h)⟩

/-- As long as there are items, one of them comes out. -/
theorem exists_pop (less : Nat → Nat → Bool) {p : Pool} (h : p.isEmpty = false) :
    ∃ item q, p.pop less = (some item, q) := by
  have hpos : 0 < p.size := by
    rw [isEmpty, Array.isEmpty_eq_false_iff] at h
    exact Array.size_pos_iff.2 h
  have hsize : (p.swap 0 (p.size - 1)).size = p.size := (perm_swap p 0 (p.size - 1)).size_eq
  have sift := rearranged_siftDown less (n := p.size - 1) (p.swap 0 (p.size - 1)) 0 (by omega)
  rw [pop, h, if_neg Bool.false_ne_true, takeLast]
  cases hlast : ((p.swap 0 (p.size - 1)).siftDown less 0 (p.size - 1)).1.items.back? with
  | none =>
      have hnone := sift.size_eq
      rw [Array.back?_eq_none_iff] at hlast
      rw [size, hlast] at hnone
      have : (#[] : Array Nat).size = 0 := rfl
      omega
  | some item => exact ⟨item, _, rfl⟩

theorem pop_none (less : Nat → Nat → Bool) {p : Pool} (h : p.isEmpty = true) :
    p.pop less = (none, p) := by
  rw [pop, if_pos h]

/-- **Taking out by position**: the item at that position comes out, and
positions stay exact. -/
theorem remove_some (less : Nat → Nat → Bool) {p : Pool} (h : p.Indexed) {i item : Nat}
    (hi : p.items[i]? = some item) :
    ∃ q, p.remove less i = (some item, q) ∧ q.Indexed ∧ p.items.Perm (q.items.push item) := by
  have hlt : i < p.size := (Array.getElem?_eq_some_iff.1 hi).1
  have hsize : (p.swap i (p.size - 1)).size = p.size := (perm_swap p i (p.size - 1)).size_eq
  rw [remove, if_neg (by omega)]
  split
  · next hlast =>
    have hback : p.items.back? = some item := by
      rw [Array.back?_eq_getElem?]
      rw [hlast] at hi
      exact hi
    obtain ⟨q, htake, hq, hperm⟩ := takeLast_of_back hback
    exact ⟨q, htake, hq h, hperm⟩
  · obtain ⟨q, htake, hq, hperm⟩ :=
      takeLast_rearranged hi (rearranged_restore less _ i (by omega) (by omega))
    exact ⟨q, htake, hq h, hperm⟩

/-- **Taking out by remembered position**: exactly that item comes out. -/
theorem erase_of_contains (less : Nat → Nat → Bool) {p : Pool} (h : p.Indexed) {item : Nat}
    (hitem : item ∈ p.items) :
    (p.erase less item).Indexed ∧ p.items.Perm ((p.erase less item).items.push item) := by
  obtain ⟨i, hi⟩ := Array.mem_iff_getElem?.1 hitem
  obtain ⟨q, hremove, hq, hperm⟩ := remove_some less h hi
  rw [erase, (h item i).2 hi]
  simp only [hremove]
  exact ⟨hq, hperm⟩

theorem erase_of_not_mem (less : Nat → Nat → Bool) {p : Pool} (h : p.Indexed) {item : Nat}
    (hitem : item ∉ p.items) : p.erase less item = p := by
  have hc : p.contains item = false := by
    rw [← Bool.not_eq_true, h.contains_iff]
    exact hitem
  unfold erase
  split
  · next i hi => simp [contains, hi] at hc
  · rfl

theorem erase_indexed (less : Nat → Nat → Bool) {p : Pool} (h : p.Indexed) (item : Nat) :
    (p.erase less item).Indexed := by
  by_cases hitem : item ∈ p.items
  · exact (erase_of_contains less h hitem).1
  · rw [erase_of_not_mem less h hitem]
    exact h

theorem mem_erase (less : Nat → Nat → Bool) {p : Pool} (h : p.Indexed) (item other : Nat) :
    other ∈ (p.erase less item).items ↔ other ∈ p.items ∧ other ≠ item := by
  by_cases hitem : item ∈ p.items
  · obtain ⟨-, hperm⟩ := erase_of_contains less h hitem
    have hne : ∀ x ∈ (p.erase less item).items, x ≠ item := fun x hx hxi =>
      h.not_mem_of_perm hperm (hxi ▸ hx)
    rw [hperm.mem_iff, Array.mem_push]
    constructor
    · intro ho
      exact ⟨.inl ho, hne other ho⟩
    · rintro ⟨ho | ho, hother⟩
      · exact ho
      · exact absurd ho hother
  · rw [erase_of_not_mem less h hitem]
    constructor
    · intro ho
      exact ⟨ho, fun heq => hitem (heq ▸ ho)⟩
    · exact And.left

/-- Restoring the order at a position moves items and their positions, and nothing
else. -/
theorem fix_indexed (less : Nat → Nat → Bool) (p : Pool) (i : Nat) :
    (p.Indexed → (p.fix less i).Indexed) ∧ (p.fix less i).items.Perm p.items := by
  unfold fix
  split
  · exact ⟨id, .rfl⟩
  · next hlt =>
    have sift := rearranged_restore less p i (n := p.size) (by omega) (Nat.le_refl _)
    exact ⟨sift.indexed, sift.perm⟩

/-- **Restoring the order** after a key has changed moves items and their
positions, and nothing else. -/
theorem update_indexed (less : Nat → Nat → Bool) {p : Pool} (h : p.Indexed) (item : Nat) :
    (p.update less item).Indexed ∧ (p.update less item).items.Perm p.items := by
  unfold update
  split
  · next i hi =>
    obtain ⟨hindexed, hperm⟩ := fix_indexed less p i
    exact ⟨hindexed h, hperm⟩
  · exact ⟨h, .rfl⟩

/-- Positions out of range: nothing comes out, and nothing moves. -/
theorem remove_of_size_le (less : Nat → Nat → Bool) {p : Pool} {i : Nat} (h : p.size ≤ i) :
    p.remove less i = (none, p) := if_pos h

theorem fix_of_size_le (less : Nat → Nat → Bool) {p : Pool} {i : Nat} (h : p.size ≤ i) :
    p.fix less i = p := if_pos h

theorem update_of_not_mem (less : Nat → Nat → Bool) {p : Pool} (h : p.Indexed) {item : Nat}
    (hitem : item ∉ p.items) : p.update less item = p := by
  unfold update
  split
  · next i hi => exact absurd (Array.mem_of_getElem? ((h item i).1 hi)) hitem
  · rfl

end StreamBalancer.Pool
