import StreamBalancer.Proofs.Pool.Positions

/-!
# StreamBalancer.Proofs.Pool.Order

The pool keeps its order: no item goes before the item above it.

1. `less` has to rank the items of the pool (`Ranks`), and nothing is asked of it
   elsewhere.  Ties are allowed.
2. Sifting starts from a pool that is in order but around one position, the hole:
   `UpOrder` and `DownOrder` say what is known around it, one for each direction,
   and `Loose` is what is left when the key of the item there has changed.
3. Each operation restores the order: `ordered_push`, `ordered_pop`, and, after the
   key of one item has changed, `ordered_erase` and `ordered_update`.
4. In a pool in order the top goes first (`Ordered.top_first`).
-/

namespace StreamBalancer.Pool

/-- `less` ranks some items: of two at most one goes before the other, and not going
before is passed on. -/
structure Ranks (less : Nat → Nat → Bool) (items : Array Nat) : Prop where
  asymm : ∀ x ∈ items, ∀ y ∈ items, less x y = true → less y x = false
  trans : ∀ x ∈ items, ∀ y ∈ items, ∀ z ∈ items, less y x = false → less z y = false →
    less z x = false

theorem Ranks.perm {less : Nat → Nat → Bool} {xs ys : Array Nat} (h : Ranks less xs)
    (hperm : ys.Perm xs) : Ranks less ys where
  asymm x hx y hy := h.asymm x (hperm.mem_iff.1 hx) y (hperm.mem_iff.1 hy)
  trans x hx y hy z hz :=
    h.trans x (hperm.mem_iff.1 hx) y (hperm.mem_iff.1 hy) z (hperm.mem_iff.1 hz)

theorem Ranks.subset {less : Nat → Nat → Bool} {xs ys : Array Nat} (h : Ranks less xs)
    (hsubset : ∀ x ∈ ys, x ∈ xs) : Ranks less ys where
  asymm x hx y hy := h.asymm x (hsubset x hx) y (hsubset y hy)
  trans x hx y hy z hz := h.trans x (hsubset x hx) y (hsubset y hy) z (hsubset z hz)

/-! ## Positions -/

/-- The position above another one. -/
def parent (i : Nat) : Nat := (i - 1) / 2

theorem parent_lt {i : Nat} (h : 0 < i) : parent i < i := by
  unfold parent
  omega

/-- The item at `i` may stand above the item at `j`. -/
def Above (less : Nat → Nat → Bool) (p : Pool) (i j : Nat) : Prop := p.lessAt less j i = false

section Above

variable {less : Nat → Nat → Bool} {p : Pool}

theorem lessAt_of_getElem? {i j x y : Nat} (hi : p.items[i]? = some x) (hj : p.items[j]? = some y) :
    p.lessAt less i j = less x y := by
  rw [lessAt, hi, hj]

theorem exists_item {i : Nat} (h : i < p.size) : ∃ x, p.items[i]? = some x ∧ x ∈ p.items :=
  ⟨_, Array.getElem?_eq_getElem h, Array.getElem_mem h⟩

theorem above_refl (hr : Ranks less p.items) {i : Nat} (hi : i < p.size) : p.Above less i i := by
  obtain ⟨x, hx, hmem⟩ := exists_item hi
  rw [Above, lessAt_of_getElem? hx hx]
  cases h : less x x with
  | false => rfl
  | true => exact h.symm.trans (hr.asymm x hmem x hmem h)

theorem above_trans (hr : Ranks less p.items) {i j k : Nat} (hi : i < p.size) (hj : j < p.size)
    (hk : k < p.size) (hij : p.Above less i j) (hjk : p.Above less j k) : p.Above less i k := by
  obtain ⟨x, hx, hxm⟩ := exists_item hi
  obtain ⟨y, hy, hym⟩ := exists_item hj
  obtain ⟨z, hz, hzm⟩ := exists_item hk
  rw [Above, lessAt_of_getElem? hy hx] at hij
  rw [Above, lessAt_of_getElem? hz hy] at hjk
  rw [Above, lessAt_of_getElem? hz hx]
  exact hr.trans x hxm y hym z hzm hij hjk

/-- What goes before another item may stand above it. -/
theorem above_of_lessAt (hr : Ranks less p.items) {i j : Nat} (hi : i < p.size) (hj : j < p.size)
    (h : p.lessAt less i j = true) : p.Above less i j := by
  obtain ⟨x, hx, hxm⟩ := exists_item hi
  obtain ⟨y, hy, hym⟩ := exists_item hj
  rw [lessAt_of_getElem? hx hy] at h
  rw [Above, lessAt_of_getElem? hy hx]
  exact hr.asymm x hxm y hym h

theorem above_of_not_lessAt {i j : Nat} (h : ¬p.lessAt less i j = true) : p.Above less j i := by
  rw [Above]
  exact Bool.not_eq_true _ ▸ h

/-- The position from which an item comes when two are exchanged. -/
def exchange (i j k : Nat) : Nat := if k = j then i else if k = i then j else k

theorem above_swap {i j : Nat} (hi : i < p.size) (hj : j < p.size) (k l : Nat) :
    (p.swap i j).Above less k l ↔ p.Above less (exchange i j k) (exchange i j l) := by
  have hget : ∀ m, (p.swap i j).items[m]? = p.items[exchange i j m]? := by
    intro m
    rw [getElem?_swap hi hj, exchange]
    split
    · rfl
    · split <;> rfl
  rw [Above, Above, lessAt, lessAt, hget, hget]

theorem exchange_left (i j : Nat) : exchange i j i = j := by
  unfold exchange
  split
  · next h => exact h
  · rw [if_pos rfl]

theorem exchange_right (i j : Nat) : exchange i j j = i := if_pos rfl

theorem exchange_other {i j k : Nat} (hi : k ≠ i) (hj : k ≠ j) : exchange i j k = k := by
  rw [exchange, if_neg hj, if_neg hi]

end Above

/-! ## Order -/

/-- The first `n` entries are in order. -/
def OrderedTo (less : Nat → Nat → Bool) (n : Nat) (p : Pool) : Prop :=
  ∀ j, 0 < j → j < n → p.Above less (parent j) j

/-- No item goes before the one above it. -/
def Ordered (less : Nat → Nat → Bool) (p : Pool) : Prop := p.OrderedTo less p.size

/-- The first `n` entries are in order, but for the item at `i`. -/
structure Loose (less : Nat → Nat → Bool) (n : Nat) (p : Pool) (i : Nat) : Prop where
  off : ∀ j, 0 < j → j < n → j ≠ i → parent j ≠ i → p.Above less (parent j) j
  grand : 0 < i → ∀ j, 0 < j → j < n → parent j = i → p.Above less (parent i) j

/-- The item at `i` is in order with those below it. -/
structure UpOrder (less : Nat → Nat → Bool) (n : Nat) (p : Pool) (i : Nat) : Prop extends
    Loose less n p i where
  below : ∀ j, 0 < j → j < n → parent j = i → p.Above less i j

/-- The item at `i` is in order with the one above it. -/
structure DownOrder (less : Nat → Nat → Bool) (n : Nat) (p : Pool) (i : Nat) : Prop extends
    Loose less n p i where
  above : 0 < i → p.Above less (parent i) i

section Sifting

variable {less : Nat → Nat → Bool} {n : Nat} {p : Pool} {i : Nat}

theorem UpOrder.ordered (h : UpOrder less n p i) (hstop : 0 < i → p.Above less (parent i) i) :
    p.OrderedTo less n := by
  intro j hj hjn
  by_cases hji : j = i
  · subst hji
    exact hstop hj
  · by_cases hpj : parent j = i
    · rw [hpj]
      exact h.below j hj hjn hpj
    · exact h.off j hj hjn hji hpj

theorem DownOrder.ordered (h : DownOrder less n p i)
    (hstop : ∀ j, 0 < j → j < n → parent j = i → p.Above less i j) : p.OrderedTo less n :=
  UpOrder.ordered { h with below := hstop } h.above

/-- An item that goes before the one above it changes places with that one. -/
theorem UpOrder.move (hr : Ranks less p.items) (h : UpOrder less n p i) (hi : i < n)
    (hn : n ≤ p.size) (hpos : 0 < i) (hless : p.lessAt less i (parent i) = true) :
    UpOrder less n (p.swap (parent i) i) (parent i) := by
  have hlt : parent i < i := parent_lt hpos
  have hup := above_of_lessAt hr (by omega) (by omega) hless
  have hswap := @above_swap less p (parent i) i (by omega) (by omega)
  -- the other children of the position above
  have hsibling : ∀ j, 0 < j → j < n → j ≠ i → parent j = parent i → p.Above less (parent i) j := by
    intro j hj hjn hji hpj
    rw [← hpj]
    exact h.off j hj hjn hji (by omega)
  refine { off := fun j hj hjn hjp hpj => ?_, grand := fun hpos' j hj hjn hpj => ?_,
           below := fun j hj hjn hpj => ?_ }
  · rw [hswap]
    have hji : j ≠ i := by
      rintro rfl
      exact hpj rfl
    by_cases hpi : parent j = i
    · rw [hpi, exchange_right, exchange_other hjp hji]
      exact h.grand hpos j hj hjn hpi
    · rw [exchange_other hpj hpi, exchange_other hjp hji]
      exact h.off j hj hjn hji hpi
  · have hgrand : p.Above less (parent (parent i)) (parent i) :=
      h.off (parent i) hpos' (by omega) (by omega) (by have := parent_lt hpos'; omega)
    have hgp : parent (parent i) < parent i := parent_lt hpos'
    rw [hswap, exchange_other (k := parent (parent i)) (by omega) (by omega)]
    by_cases hji : j = i
    · rw [hji, exchange_right]
      exact hgrand
    · have hjp : j ≠ parent i := by
        have := parent_lt hj
        omega
      rw [exchange_other hjp hji]
      exact above_trans hr (by omega) (by omega) (by omega) hgrand (hsibling j hj hjn hji hpj)
  · rw [hswap, exchange_left]
    by_cases hji : j = i
    · rw [hji, exchange_right]
      exact hup
    · have hjp : j ≠ parent i := by
        have := parent_lt hj
        omega
      rw [exchange_other hjp hji]
      exact above_trans hr (by omega) (by omega) (by omega) hup (hsibling j hj hjn hji hpj)

theorem ordered_siftUp (hr : Ranks less p.items) (h : UpOrder less n p i) (hi : i < n)
    (hn : n ≤ p.size) : (p.siftUp less i).OrderedTo less n := by
  induction p, i using siftUp.induct less with
  | case1 p =>
      rw [siftUp, if_pos rfl]
      exact h.ordered fun h0 => absurd h0 (Nat.lt_irrefl 0)
  | case2 p i h0 hless ih =>
      rw [siftUp, if_neg h0, if_pos hless]
      have hpos : 0 < i := Nat.pos_of_ne_zero h0
      have hperm := perm_swap p (parent i) i
      refine ih (hr.perm hperm) (h.move hr hi hn hpos hless) ?_ ?_
      · have := parent_lt hpos
        exact Nat.lt_trans this hi
      · exact Nat.le_trans hn (Nat.le_of_eq hperm.size_eq.symm)
  | case3 p i h0 hless =>
      rw [siftUp, if_neg h0, if_neg hless]
      exact h.ordered fun _ => above_of_not_lessAt hless

/-- A position below another one is one of two. -/
theorem child_cases {i j : Nat} (hj : 0 < j) (h : parent j = i) : j = 2 * i + 1 ∨ j = 2 * i + 2 := by
  unfold parent at h
  omega

/-- The first child is a child, and the other one does not go before it. -/
theorem firstChild?_some (hr : Ranks less p.items) (hn : n ≤ p.size) {c : Nat}
    (h : p.firstChild? less i n = some c) :
    0 < c ∧ parent c = i ∧ ∀ j, 0 < j → j < n → parent j = i → p.Above less c j := by
  have hbounds := firstChild?_bounds h
  unfold firstChild? at h
  split at h
  · contradiction
  · split at h
    · next hright =>
      obtain rfl := Option.some.inj h
      obtain ⟨hlt, hless⟩ := Bool.and_eq_true_iff.1 hright
      refine ⟨by omega, by unfold parent; omega, fun j hj hjn hpj => ?_⟩
      obtain rfl | rfl := child_cases hj hpj
      · exact above_of_lessAt hr (by omega) (by omega) hless
      · exact above_refl hr (by omega)
    · next hleft =>
      obtain rfl := Option.some.inj h
      refine ⟨by omega, by unfold parent; omega, fun j hj hjn hpj => ?_⟩
      obtain rfl | rfl := child_cases hj hpj
      · exact above_refl hr (by omega)
      · apply above_of_not_lessAt
        intro hless
        exact hleft (Bool.and_eq_true_iff.2 ⟨decide_eq_true hjn, hless⟩)

theorem firstChild?_none (h : p.firstChild? less i n = none) {j : Nat} (hj : 0 < j)
    (hpj : parent j = i) : n ≤ j := by
  unfold firstChild? at h
  split at h
  · obtain rfl | rfl := child_cases hj hpj <;> omega
  · split at h <;> contradiction

/-- The first child, if it goes before the item above it, changes places with that
one. -/
theorem Loose.move (hr : Ranks less p.items) (h : Loose less n p i) (hn : n ≤ p.size) {c : Nat}
    (hchild : p.firstChild? less i n = some c) (hless : p.lessAt less c i = true) :
    DownOrder less n (p.swap i c) c := by
  have hbounds := firstChild?_bounds hchild
  obtain ⟨hcpos, hpc, hfirst⟩ := firstChild?_some hr hn hchild
  have hswap := @above_swap less p i c (by omega) (by omega)
  refine { off := fun j hj hjn hjc hpj => ?_, grand := fun _ j hj hjn hpj => ?_,
           above := fun _ => ?_ }
  · rw [hswap]
    by_cases hji : j = i
    · subst hji
      have hlt := parent_lt hj
      rw [exchange_left, exchange_other (by omega) hpj]
      exact h.grand hj c hcpos hbounds.2 hpc
    · rw [exchange_other hji hjc]
      by_cases hpi : parent j = i
      · rw [hpi, exchange_left]
        exact hfirst j hj hjn hpi
      · rw [exchange_other hpi hpj]
        exact h.off j hj hjn hji hpi
  · have hjc : j ≠ c := by
      have := parent_lt hj
      omega
    have hji : j ≠ i := by
      have := parent_lt hj
      omega
    rw [hswap, hpc, exchange_left, exchange_other hji hjc, ← hpj]
    exact h.off j hj hjn hji (by omega)
  · rw [hswap, hpc, exchange_left, exchange_right]
    exact above_of_lessAt hr (by omega) (by omega) hless

/-! ### What sifting down does first -/

theorem siftDown_of_leaf (h : p.firstChild? less i n = none) : p.siftDown less i n = (p, i) := by
  rw [siftDown]
  split
  · rfl
  · next hchild =>
    rw [h] at hchild
    contradiction

theorem siftDown_of_child {c : Nat} (h : p.firstChild? less i n = some c) :
    p.siftDown less i n =
      if p.lessAt less c i then (p.swap i c).siftDown less c n else (p, i) := by
  rw [siftDown]
  split
  · next hleaf =>
    rw [h] at hleaf
    contradiction
  · next hchild =>
    rw [h] at hchild
    obtain rfl := Option.some.inj hchild
    rfl

theorem le_siftDown : i ≤ (p.siftDown less i n).2 := by
  induction p, i using siftDown.induct less n with
  | case1 p i hleaf =>
      exact Nat.le_of_eq (by rw [siftDown_of_leaf hleaf])
  | case2 p i c hchild hless ih =>
      rw [siftDown_of_child hchild, if_pos hless]
      have hbounds := firstChild?_bounds hchild
      omega
  | case3 p i c hchild hless =>
      exact Nat.le_of_eq (by rw [siftDown_of_child hchild, if_neg hless])

/-- The item stays if it has no child, or if the first child does not go before it. -/
theorem below_of_leaf (h : p.firstChild? less i n = none) :
    ∀ j, 0 < j → j < n → parent j = i → p.Above less i j :=
  fun _ hj hjn hpj => absurd hjn (Nat.not_lt.2 (firstChild?_none h hj hpj))

theorem below_of_child (hr : Ranks less p.items) (hi : i < n) (hn : n ≤ p.size) {c : Nat}
    (h : p.firstChild? less i n = some c) (hless : ¬p.lessAt less c i = true) :
    ∀ j, 0 < j → j < n → parent j = i → p.Above less i j := by
  intro j hj hjn hpj
  have hbounds := firstChild?_bounds h
  obtain ⟨-, -, hfirst⟩ := firstChild?_some hr hn h
  exact above_trans hr (by omega) (by omega) (by omega) (above_of_not_lessAt hless)
    (hfirst j hj hjn hpj)

theorem ordered_siftDown (hr : Ranks less p.items) (h : DownOrder less n p i) (hi : i < n)
    (hn : n ≤ p.size) : (p.siftDown less i n).1.OrderedTo less n := by
  induction p, i using siftDown.induct less n with
  | case1 p i hleaf =>
      rw [siftDown_of_leaf hleaf]
      exact h.ordered (below_of_leaf hleaf)
  | case2 p i c hchild hless ih =>
      rw [siftDown_of_child hchild, if_pos hless]
      have hperm := perm_swap p i c
      exact ih (hr.perm hperm) (h.toLoose.move hr hn hchild hless) (firstChild?_bounds hchild).2
        (Nat.le_trans hn (Nat.le_of_eq hperm.size_eq.symm))
  | case3 p i c hchild hless =>
      rw [siftDown_of_child hchild, if_neg hless]
      exact h.ordered (below_of_child hr hi hn hchild hless)

/-- **Restoring the order** around an item whose key has changed: it moves down, or
else up. -/
theorem ordered_restore (hr : Ranks less p.items) (h : Loose less n p i) (hi : i < n)
    (hn : n ≤ p.size) : (p.restore less i n).OrderedTo less n := by
  have hstay : (∀ j, 0 < j → j < n → parent j = i → p.Above less i j) →
      p.siftDown less i n = (p, i) → (p.restore less i n).OrderedTo less n := by
    intro hbelow heq
    rw [restore, heq]
    simp only [Nat.lt_irrefl, if_false]
    exact ordered_siftUp hr { h with below := hbelow } hi hn
  cases hchild : p.firstChild? less i n with
  | none => exact hstay (below_of_leaf hchild) (siftDown_of_leaf hchild)
  | some c =>
      by_cases hless : p.lessAt less c i = true
      · have hbounds := firstChild?_bounds hchild
        have hperm := perm_swap p i c
        have hdown := ordered_siftDown (hr.perm hperm) (h.move hr hn hchild hless) hbounds.2
          (Nat.le_trans hn (Nat.le_of_eq hperm.size_eq.symm))
        have hmoved : i < ((p.swap i c).siftDown less c n).2 :=
          Nat.lt_of_lt_of_le hbounds.1 le_siftDown
        rw [restore, siftDown_of_child hchild, if_pos hless]
        simp only [hmoved, if_true]
        exact hdown
      · refine hstay (below_of_child hr hi hn hchild hless) ?_
        rw [siftDown_of_child hchild, if_neg hless]

end Sifting

/-! ## Operations -/

section Operations

variable {less : Nat → Nat → Bool} {p : Pool}

theorem ordered_empty : ({} : Pool).Ordered less :=
  fun _ _ hj => absurd hj (Nat.not_lt_zero _)

theorem above_congr {q : Pool} {i j : Nat} (hi : q.items[i]? = p.items[i]?)
    (hj : q.items[j]? = p.items[j]?) : q.Above less i j ↔ p.Above less i j := by
  rw [Above, Above, lessAt, lessAt, hi, hj]

/-- Entries that stay in place stay in order. -/
theorem OrderedTo.congr {n : Nat} (h : p.OrderedTo less n) {q : Pool}
    (hsame : ∀ j, j < n → q.items[j]? = p.items[j]?) : q.OrderedTo less n := by
  intro j hj hjn
  have hlt := parent_lt hj
  exact (above_congr (hsame _ (by omega)) (hsame j hjn)).2 (h j hj hjn)

/-- **Putting in** keeps the order. -/
theorem ordered_push (h : p.Ordered less) {item : Nat} (hr : Ranks less (p.items.push item)) :
    (p.push less item).Ordered less := by
  have hsame : ∀ j, j < p.size → (p.items.push item)[j]? = p.items[j]? := by
    intro j hj
    rw [Array.getElem?_push]
    exact if_neg (Nat.ne_of_lt hj)
  have hsize : (p.items.push item).size = p.size + 1 := Array.size_push item
  have hsift := rearranged_siftUp less (n := p.size + 1)
    (({ p with items := p.items.push item } : Pool).setPosition item (some p.size)) p.size
    (Nat.lt_succ_self _) (Nat.le_of_eq hsize.symm)
  have hup : UpOrder less (p.size + 1)
      (({ p with items := p.items.push item } : Pool).setPosition item (some p.size)) p.size := by
    have hnone : ∀ j, 0 < j → j < p.size + 1 → parent j ≠ p.size := by
      intro j hj hjn
      have := parent_lt hj
      omega
    refine { off := fun j hj hjn hne _ => ?_, grand := fun _ j hj hjn hpj => ?_,
             below := fun j hj hjn hpj => ?_ }
    · have hlt := parent_lt hj
      exact (above_congr (hsame _ (by omega)) (hsame j (by omega))).2 (h j hj (by omega))
    · exact absurd hpj (hnone j hj hjn)
    · exact absurd hpj (hnone j hj hjn)
  have hordered := ordered_siftUp hr hup (Nat.lt_succ_self _) (Nat.le_of_eq hsize.symm)
  have hpushed : (p.push less item).size = p.size + 1 := hsift.size_eq.trans hsize
  rw [Ordered, hpushed]
  exact hordered

/-- Taking the last entry out keeps the others in order. -/
theorem ordered_takeLast (h : p.OrderedTo less (p.size - 1)) : p.takeLast.2.Ordered less := by
  unfold takeLast
  split
  · have hsize : p.items.pop.size = p.size - 1 := Array.size_pop
    have hpop : ({ p with items := p.items.pop } : Pool).OrderedTo less (p.size - 1) := by
      refine h.congr fun j hj => ?_
      rw [Array.getElem?_pop, if_pos]
      exact hj
    change OrderedTo less p.items.pop.size _
    rw [hsize]
    exact hpop
  · next hnone =>
    have hsize : p.size = 0 := by
      rw [size, Array.back?_eq_none_iff.1 hnone]
      rfl
    intro j _ hj
    rw [hsize] at hj
    exact absurd hj (Nat.not_lt_zero _)

/-- **Taking out the top** keeps the order. -/
theorem ordered_pop (h : p.Ordered less) (hr : Ranks less p.items) : (p.pop less).2.Ordered less := by
  unfold pop
  split
  · exact h
  · next hsome =>
    have hpos : 0 < p.size := by
      rw [Bool.not_eq_true, isEmpty, Array.isEmpty_eq_false_iff] at hsome
      exact Array.size_pos_iff.2 hsome
    have hperm := perm_swap p 0 (p.size - 1)
    have hsize : (p.swap 0 (p.size - 1)).size = p.size := hperm.size_eq
    have hsift := rearranged_siftDown less (n := p.size - 1) (p.swap 0 (p.size - 1)) 0 (by omega)
    have hdown : DownOrder less (p.size - 1) (p.swap 0 (p.size - 1)) 0 := by
      refine { off := fun j hj hjn h0 hp0 => ?_, grand := fun h0 => absurd h0 (Nat.lt_irrefl 0),
               above := fun h0 => absurd h0 (Nat.lt_irrefl 0) }
      have hlt := parent_lt hj
      rw [above_swap (by omega) (by omega), exchange_other hp0 (by omega),
        exchange_other h0 (by omega)]
      exact h j hj (by omega)
    apply ordered_takeLast
    rw [hsift.size_eq, hsize]
    by_cases hone : 0 < p.size - 1
    · exact ordered_siftDown (hr.perm hperm) hdown hone (by omega)
    · intro j hj hjn
      omega

/-- **Taking out** an item whose key may have changed restores the order. -/
theorem ordered_remove {i : Nat} (h : Loose less p.size p i) (hr : Ranks less p.items)
    (hi : i < p.size) : (p.remove less i).2.Ordered less := by
  rw [remove, if_neg (Nat.not_le.2 hi)]
  split
  · next hlast =>
    apply ordered_takeLast
    intro j hj hjn
    have hlt := parent_lt hj
    exact h.off j hj (by omega) (by omega) (by omega)
  · next hlast =>
    have hperm := perm_swap p i (p.size - 1)
    have hsize : (p.swap i (p.size - 1)).size = p.size := hperm.size_eq
    have hsift := rearranged_restore less (n := p.size - 1) (p.swap i (p.size - 1)) i (by omega)
      (by omega)
    have hswap := @above_swap less p i (p.size - 1) hi (by omega)
    have hloose : Loose less (p.size - 1) (p.swap i (p.size - 1)) i := by
      refine { off := fun j hj hjn hji hpj => ?_, grand := fun hpos j hj hjn hpj => ?_ }
      · have hlt := parent_lt hj
        rw [hswap, exchange_other hpj (by omega), exchange_other hji (by omega)]
        exact h.off j hj (by omega) hji hpj
      · have hlt := parent_lt hj
        have hlt' := parent_lt hpos
        rw [hswap, exchange_other (by omega) (by omega), exchange_other (by omega) (by omega)]
        exact h.grand hpos j hj (by omega) hpj
    apply ordered_takeLast
    rw [hsift.size_eq, hsize]
    exact ordered_restore (hr.perm hperm) hloose (by omega) (by omega)

/-- **Restoring the order** at the position of an item whose key has changed. -/
theorem ordered_fix {i : Nat} (h : Loose less p.size p i) (hr : Ranks less p.items)
    (hi : i < p.size) : (p.fix less i).Ordered less := by
  rw [fix, if_neg (Nat.not_le.2 hi), Ordered,
    (rearranged_restore less p i hi (Nat.le_refl _)).size_eq]
  exact ordered_restore hr h hi (Nat.le_refl _)

/-! ## Keys that change -/

/-- The order is one of the items that are in the pool. -/
theorem Ordered.congr (h : p.Ordered less) {less' : Nat → Nat → Bool}
    (hsame : ∀ x ∈ p.items, ∀ y ∈ p.items, less' x y = less x y) : p.Ordered less' := by
  intro j hj hjn
  have hlt := parent_lt hj
  obtain ⟨x, hx, hxm⟩ := exists_item (p := p) (i := parent j) (by omega)
  obtain ⟨y, hy, hym⟩ := exists_item (p := p) hjn
  have hold := h j hj hjn
  rw [Above, lessAt_of_getElem? hy hx] at hold ⊢
  rw [hsame y hym x hxm]
  exact hold

/-- When the key at one position changes, the other positions stay in order. -/
theorem Ordered.loose_at (h : p.Ordered less) (hr : Ranks less p.items)
    {less' : Nat → Nat → Bool} {i : Nat} (hin : i < p.size)
    (hsame : ∀ j k x y, j ≠ i → k ≠ i → p.items[j]? = some x → p.items[k]? = some y →
      less' x y = less x y) :
    Loose less' p.size p i := by
  -- what was in order away from the position still is
  have hkeep : ∀ j k, j < p.size → k < p.size → j ≠ i → k ≠ i → p.Above less j k →
      p.Above less' j k := by
    intro j k hj hk hji hki habove
    obtain ⟨x, hx, hxm⟩ := exists_item hj
    obtain ⟨y, hy, hym⟩ := exists_item hk
    rw [Above, lessAt_of_getElem? hy hx] at habove ⊢
    rw [hsame k j y x hki hji hy hx]
    exact habove
  refine { off := fun j hj hjn hji hpj => ?_, grand := fun hpos j hj hjn hpj => ?_ }
  · have hlt := parent_lt hj
    exact hkeep _ _ (by omega) hjn hpj hji (h j hj hjn)
  · have hlt := parent_lt hj
    have hlt' := parent_lt hpos
    refine hkeep _ _ (by omega) hjn (by omega) (by omega) ?_
    refine above_trans hr (by omega) hin hjn (h i hpos hin) ?_
    rw [← hpj]
    exact h j hj hjn

/-- When the key of one item changes, the others stay in order. -/
theorem Ordered.loose (h : p.Ordered less) (hr : Ranks less p.items) (hindexed : p.Indexed)
    {less' : Nat → Nat → Bool} {item i : Nat} (hi : p.items[i]? = some item)
    (hsame : ∀ x ∈ p.items, ∀ y ∈ p.items, x ≠ item → y ≠ item → less' x y = less x y) :
    Loose less' p.size p i := by
  refine h.loose_at hr (Array.getElem?_eq_some_iff.1 hi).1 fun j k x y hji hki hx hy => ?_
  refine hsame x (Array.mem_of_getElem? hx) y (Array.mem_of_getElem? hy) ?_ ?_
  · rintro rfl
    exact hji (hindexed.position_unique hx hi)
  · rintro rfl
    exact hki (hindexed.position_unique hy hi)

/-- When the key of an item outside changes, the pool stays in order. -/
theorem Ordered.congr_of_position? (h : p.Ordered less) (hindexed : p.Indexed)
    {less' : Nat → Nat → Bool} {item : Nat} (hposition : p.position? item = none)
    (hsame : ∀ x ∈ p.items, ∀ y ∈ p.items, x ≠ item → y ≠ item → less' x y = less x y) :
    p.Ordered less' := by
  have hnot : item ∉ p.items := by
    intro hmem
    have hin := (hindexed.contains_iff item).2 hmem
    rw [contains, hposition] at hin
    contradiction
  exact h.congr fun x hx y hy => hsame x hx y hy (fun heq => hnot (heq ▸ hx))
    fun heq => hnot (heq ▸ hy)

/-- **Taking an item out** after its key has changed, if it is in the pool. -/
theorem ordered_erase (h : p.Ordered less) (hr : Ranks less p.items) (hindexed : p.Indexed)
    {less' : Nat → Nat → Bool} (hr' : Ranks less' p.items) (item : Nat)
    (hsame : ∀ x ∈ p.items, ∀ y ∈ p.items, x ≠ item → y ≠ item → less' x y = less x y) :
    (p.erase less' item).Ordered less' := by
  unfold erase
  split
  · next i hposition =>
    have hi := (hindexed item i).1 hposition
    exact ordered_remove (h.loose hr hindexed hi hsame) hr' (Array.getElem?_eq_some_iff.1 hi).1
  · next hposition => exact h.congr_of_position? hindexed hposition hsame

/-- **Restoring the order** after the key of an item has changed, if it is in the
pool. -/
theorem ordered_update (h : p.Ordered less) (hr : Ranks less p.items) (hindexed : p.Indexed)
    {less' : Nat → Nat → Bool} (hr' : Ranks less' p.items) (item : Nat)
    (hsame : ∀ x ∈ p.items, ∀ y ∈ p.items, x ≠ item → y ≠ item → less' x y = less x y) :
    (p.update less' item).Ordered less' := by
  unfold update
  split
  · next i hposition =>
    have hi := (hindexed item i).1 hposition
    exact ordered_fix (h.loose hr hindexed hi hsame) hr' (Array.getElem?_eq_some_iff.1 hi).1
  · next hposition => exact h.congr_of_position? hindexed hposition hsame

/-- **The top goes first**: nothing in the pool goes before it. -/
theorem Ordered.top_first (h : p.Ordered less) (hr : Ranks less p.items) {top : Nat}
    (htop : p.items[0]? = some top) : ∀ x ∈ p.items, less x top = false := by
  have hfirst : ∀ i, i < p.size → p.Above less 0 i := by
    intro i
    induction i using Nat.strongRecOn with
    | ind i ih =>
        intro hi
        obtain rfl | hpos := Nat.eq_zero_or_pos i
        · exact above_refl hr hi
        · have hlt := parent_lt hpos
          exact above_trans hr (by omega) (by omega) hi (ih (parent i) hlt (by omega)) (h i hpos hi)
  intro x hx
  obtain ⟨i, hi⟩ := Array.mem_iff_getElem?.1 hx
  have habove := hfirst i (Array.getElem?_eq_some_iff.1 hi).1
  rw [Above, lessAt_of_getElem? hi htop] at habove
  exact habove

end Operations

end StreamBalancer.Pool
