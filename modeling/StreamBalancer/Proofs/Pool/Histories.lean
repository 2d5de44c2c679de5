import Mathlib.Data.Nat.Basic
import Mathlib.Order.RelClasses
import StreamBalancer.Proofs.Pool.Order

/-!
# StreamBalancer.Proofs.Pool.Histories

What holds of a pool after any number of operations.

1. Items have keys, and `less` compares the keys (`byKey`).  The keys are not in the
   pool: they may be other ones at each operation.
2. A `Course` is a pool with the keys as they are, and all items that came and went
   so far.
3. In a free course (`Course.Free`) any key changes at any time, and `less` is any
   function.  Bookkeeping needs no more than that (`Course.Free.bookkeeping`).
4. In a tended course (`Course.Tended`) the key of an item in the pool changes only
   right before the order is restored at its position, or before it is taken out from
   there.  Then the pool is in order after each operation, and a drained pool is
   sorted (`Course.Tended.in_order`).
-/

namespace StreamBalancer.Pool

/-- What is done to a pool. -/
inductive Operation where
  | push (item : Nat)
  | pop
  | remove (i : Nat)
  | fix (i : Nat)
deriving Repr, DecidableEq

/-- The item that comes out, and the pool after the operation. -/
def operate (less : Nat → Nat → Bool) (p : Pool) : Operation → Option Nat × Pool
  | .push item => (none, p.push less item)
  | .pop => p.pop less
  | .remove i => p.remove less i
  | .fix i => (none, p.fix less i)

/-- The item that goes in. -/
def Operation.entering : Operation → List Nat
  | .push item => [item]
  | _ => []

/-- The position that the operation is about, if it names one. -/
def Operation.position? : Operation → Option Nat
  | .remove i => some i
  | .fix i => some i
  | _ => none

/-- The order of items by their keys. -/
def byKey {κ : Type*} (less : κ → κ → Bool) (keys : Nat → κ) (x y : Nat) : Bool :=
  less (keys x) (keys y)

/-! ## One operation -/

/-- **What comes and goes**: what was in the pool and what goes in is what comes out
and what is in the pool.  Positions stay exact, whatever `less` is. -/
theorem operate_indexed (less : Nat → Nat → Bool) {p : Pool} (h : p.Indexed) (op : Operation)
    (hfresh : ∀ item, op = .push item → item ∉ p.items) :
    (p.operate less op).2.Indexed ∧
      (op.entering ++ p.items.toList).Perm
        ((p.operate less op).1.toList ++ (p.operate less op).2.items.toList) := by
  -- what an operation that takes `item` out leaves
  have hout : ∀ {q : Pool} {item : Nat}, p.items.Perm (q.items.push item) →
      p.items.toList.Perm (item :: q.items.toList) := by
    intro q item hperm
    have hlist := Array.perm_iff_toList_perm.1 hperm
    rw [Array.toList_push] at hlist
    exact hlist.trans (List.perm_append_singleton _ _)
  cases op with
  | push item =>
      obtain ⟨hindexed, hperm⟩ := push_indexed less h (hfresh item rfl)
      have hlist := Array.perm_iff_toList_perm.1 hperm
      rw [Array.toList_push] at hlist
      exact ⟨hindexed, (hlist.trans (List.perm_append_singleton _ _)).symm⟩
  | pop =>
      cases hempty : p.isEmpty with
      | true =>
          rw [operate, pop_none less hempty]
          exact ⟨h, .refl _⟩
      | false =>
          obtain ⟨item, htop⟩ := exists_top hempty
          obtain ⟨q, hpop, hq, hperm⟩ := pop_some less h htop
          rw [operate, hpop]
          exact ⟨hq, hout hperm⟩
  | remove i =>
      by_cases hi : p.size ≤ i
      · rw [operate, remove_of_size_le less hi]
        exact ⟨h, .refl _⟩
      · obtain ⟨item, hitem, -⟩ := exists_item (Nat.lt_of_not_le hi)
        obtain ⟨q, hremove, hq, hperm⟩ := remove_some less h hitem
        rw [operate, hremove]
        exact ⟨hq, hout hperm⟩
  | fix i =>
      obtain ⟨hindexed, hperm⟩ := fix_indexed less p i
      exact ⟨hindexed h, (Array.perm_iff_toList_perm.1 hperm).symm⟩

section Keys

variable {κ : Type*} {less : κ → κ → Bool} {keys keys' : Nat → κ} {p : Pool}

/-- Keys in a strict weak order rank the items that have them. -/
theorem ranks_byKey [IsStrictWeakOrder κ (less · ·)] (keys : Nat → κ) (items : Array Nat) :
    Ranks (byKey less keys) items where
  asymm x _ y _ hxy := by
    rw [← Bool.not_eq_true]
    intro hyx
    have htrans := @IsTrans.trans κ (less · ·) _
    exact @Std.Irrefl.irrefl κ (less · ·) _ (keys x) (htrans _ _ _ hxy hyx)
  trans x _ y _ z _ hyx hzy := by
    rw [← Bool.not_eq_true] at hyx hzy ⊢
    intro hzx
    have htrans := @IsTrans.trans κ (less · ·) _
    have hxy : ¬less (keys x) (keys y) = true := fun hxy => hzy (htrans _ _ _ hzx hxy)
    have hyz : ¬less (keys y) (keys z) = true := fun hyz => hyx (htrans _ _ _ hyz hzx)
    exact (@IsStrictWeakOrder.incomp_trans κ (less · ·) _ _ _ _ ⟨hxy, hyx⟩ ⟨hyz, hzy⟩).2 hzx

/-- Of the keys in the pool, only the one at the position that the operation is about
may change. -/
def Tends (p : Pool) (keys keys' : Nat → κ) (op : Operation) : Prop :=
  ∀ i item, p.items[i]? = some item → keys' item ≠ keys item → op.position? = some i

/-- The key of one item is set, and the operation is about the position of the item. -/
theorem tends_update {op : Operation} {i item : Nat} (hnodup : p.items.toList.Nodup)
    (hop : op.position? = some i) (hi : p.items[i]? = some item) (key : κ) :
    p.Tends keys (Function.update keys item key) op := by
  intro j other hj hne
  have hitem : other = item := by
    by_contra hother
    exact hne (Function.update_of_ne hother key keys)
  subst hitem
  have hlt : i < p.items.toList.length := by
    rw [Array.length_toList]
    exact (Array.getElem?_eq_some_iff.1 hi).1
  have heq : i = j := by
    apply (List.getElem?_inj hlt hnodup).1
    rw [Array.getElem?_toList, Array.getElem?_toList, hi, hj]
  exact heq ▸ hop

section Tends

variable {op : Operation} (htends : p.Tends keys keys' op)

include htends

/-- Away from the position that the operation is about, items compare as before. -/
theorem Tends.byKey_eq {j k x y : Nat} (hj : op.position? ≠ some j) (hk : op.position? ≠ some k)
    (hx : p.items[j]? = some x) (hy : p.items[k]? = some y) :
    byKey less keys' x y = byKey less keys x y := by
  have hsame : ∀ {i item}, op.position? ≠ some i → p.items[i]? = some item →
      keys' item = keys item := by
    intro i item hi hitem
    by_contra hne
    exact hi (htends i item hitem hne)
  rw [byKey, byKey, hsame hj hx, hsame hk hy]

/-- An operation that is about no position in the pool finds it in order. -/
theorem Tends.ordered (h : p.Ordered (byKey less keys))
    (hnone : ∀ i, op.position? = some i → p.size ≤ i) : p.Ordered (byKey less keys') := by
  have haway : ∀ {j x}, p.items[j]? = some x → op.position? ≠ some j := by
    intro j x hx hj
    exact Nat.not_le.2 (Array.getElem?_eq_some_iff.1 hx).1 (hnone j hj)
  refine h.congr fun x hx y hy => ?_
  obtain ⟨j, hj⟩ := Array.mem_iff_getElem?.1 hx
  obtain ⟨k, hk⟩ := Array.mem_iff_getElem?.1 hy
  exact htends.byKey_eq (haway hj) (haway hk) hj hk

/-- An operation that is about a position in the pool finds it in order but there. -/
theorem Tends.loose [IsStrictWeakOrder κ (less · ·)] (h : p.Ordered (byKey less keys)) {i : Nat}
    (hop : op.position? = some i) (hi : i < p.size) : Loose (byKey less keys') p.size p i := by
  have haway : ∀ {j}, j ≠ i → op.position? ≠ some j := by
    rintro j hji hj
    rw [hop] at hj
    exact hji (Option.some.inj hj).symm
  exact h.loose_at (ranks_byKey keys p.items) hi fun j k x y hj hk hx hy =>
    htends.byKey_eq (haway hj) (haway hk) hx hy

/-- **One operation** keeps the pool in order, also when it is about an item whose key
has changed. -/
theorem ordered_operate [IsStrictWeakOrder κ (less · ·)] (h : p.Ordered (byKey less keys)) :
    (p.operate (byKey less keys') op).2.Ordered (byKey less keys') := by
  cases op with
  | push item => exact ordered_push (htends.ordered h nofun) (ranks_byKey keys' _)
  | pop => exact ordered_pop (htends.ordered h nofun) (ranks_byKey keys' _)
  | remove i =>
      by_cases hi : i < p.size
      · exact ordered_remove (htends.loose h rfl hi) (ranks_byKey keys' _) hi
      · have hout := Nat.le_of_not_lt hi
        rw [operate, remove_of_size_le _ hout]
        exact htends.ordered h fun j hj => Option.some.inj hj ▸ hout
  | fix i =>
      by_cases hi : i < p.size
      · exact ordered_fix (htends.loose h rfl hi) (ranks_byKey keys' _) hi
      · have hout := Nat.le_of_not_lt hi
        rw [operate, fix_of_size_le _ hout]
        exact htends.ordered h fun j hj => Option.some.inj hj ▸ hout

end Tends

end Keys

/-! ## Taking everything out -/

/-- Taking the top out as often as there are items gives them all, first things first. -/
theorem drain_go_sorted {less : Nat → Nat → Bool} {n : Nat} {p : Pool} (h : p.Ordered less)
    (hr : Ranks less p.items) (hsize : p.size = n) :
    (drain.go less p n).1.Perm p.items.toList ∧
      (drain.go less p n).1.Pairwise (fun x y => less y x = false) ∧
      (drain.go less p n).2.isEmpty = true := by
  induction n generalizing p with
  | zero =>
      have hnil : p.items = #[] := Array.eq_empty_of_size_eq_zero hsize
      rw [drain.go, isEmpty, hnil]
      exact ⟨.refl _, .nil, rfl⟩
  | succ n ih =>
      have hempty : p.isEmpty = false := by
        rw [isEmpty, Array.isEmpty_eq_false_iff]
        exact Array.ne_empty_of_size_pos (by rw [size] at hsize; omega)
      obtain ⟨item, htop⟩ := exists_top hempty
      obtain ⟨q, hpop, -, hperm⟩ := pop_of_top less htop
      have hsub : ∀ x ∈ q.items, x ∈ p.items := fun x hx =>
        hperm.mem_iff.2 (Array.mem_push.2 (.inl hx))
      have hq : q.Ordered less := by
        have hpopped := ordered_pop h hr
        rw [hpop] at hpopped
        exact hpopped
      have hqsize : q.size = n := by
        have := hperm.size_eq
        rw [Array.size_push] at this
        rw [size] at hsize ⊢
        omega
      obtain ⟨hrest, hsorted, hdone⟩ := ih hq (hr.subset hsub) hqsize
      rw [drain.go, hpop]
      refine ⟨?_, List.pairwise_cons.2 ⟨fun x hx => ?_, hsorted⟩, hdone⟩
      · have hlist := Array.perm_iff_toList_perm.1 hperm
        rw [Array.toList_push] at hlist
        exact (hrest.cons item).trans (hlist.trans (List.perm_append_singleton _ _)).symm
      · exact h.top_first hr htop x (hsub x (Array.mem_toList_iff.1 (hrest.mem_iff.1 hx)))

/-! ## Any number of operations -/

/-- A pool in the course of time. -/
structure Course (κ : Type*) where
  /-- The present keys, of items inside and outside. -/
  keys : Nat → κ
  /-- The pool. -/
  pool : Pool := {}
  /-- The items that were put in, the last one first. -/
  entered : List Nat := []
  /-- The items that came out, the last one first. -/
  left : List Nat := []

namespace Course

variable {κ : Type*} {less : κ → κ → Bool} {c : Course κ}

/-- The order of items by their present keys. -/
def order (less : κ → κ → Bool) (c : Course κ) : Nat → Nat → Bool := byKey less c.keys

/-- The keys become `keys`, and then one operation is done. -/
def next (less : κ → κ → Bool) (c : Course κ) (keys : Nat → κ) (op : Operation) : Course κ where
  keys := keys
  pool := (c.pool.operate (byKey less keys) op).2
  entered := op.entering ++ c.entered
  left := (c.pool.operate (byKey less keys) op).1.toList ++ c.left

/-- Operations in any sequence, with any keys at each of them.  What is put in is not
in the pool. -/
inductive Free (less : κ → κ → Bool) : Course κ → Prop
  | start (keys : Nat → κ) : Free less { keys }
  | next {c : Course κ} (h : Free less c) (keys : Nat → κ) (op : Operation)
      (hfresh : ∀ item, op = .push item → item ∉ c.pool.items) : Free less (c.next less keys op)

/-- Operations in any sequence, each one about the item whose key has changed, if
there is one in the pool. -/
inductive Tended (less : κ → κ → Bool) : Course κ → Prop
  | start (keys : Nat → κ) : Tended less { keys }
  | next {c : Course κ} (h : Tended less c) (keys : Nat → κ) (op : Operation)
      (htends : c.pool.Tends c.keys keys op) : Tended less (c.next less keys op)

theorem Free.indexed (h : c.Free less) : c.pool.Indexed := by
  induction h with
  | start keys => exact indexed_empty
  | next _ keys op hfresh ih => exact (operate_indexed _ ih op hfresh).1

/-- None is lost and none is doubled. -/
theorem Free.accounted (h : c.Free less) : c.entered.Perm (c.pool.items.toList ++ c.left) := by
  induction h with
  | start keys => exact .refl _
  | @next c hc keys op hfresh ih =>
      have hstep := (operate_indexed (byKey less keys) hc.indexed op hfresh).2
      have hafter := (hstep.trans List.perm_append_comm).append_right c.left
      rw [List.append_assoc, List.append_assoc] at hafter
      exact (ih.append_left op.entering).trans hafter

/-- **Bookkeeping** does not depend on keys, nor on what `less` is.  Items in the pool
have their positions, and no other item has one; the pool has the items that came and
did not leave, each of them once; what is taken out is the item at the position asked
for; and a position out of range, or an item that has none, changes nothing. -/
theorem Free.bookkeeping (h : c.Free less) :
    (∀ item i, c.pool.position? item = some i ↔ c.pool.items[i]? = some item) ∧
    (∀ item, c.pool.position? item = none ↔ item ∉ c.pool.items) ∧
    c.entered.Perm (c.pool.items.toList ++ c.left) ∧ c.pool.items.toList.Nodup ∧
    ∀ keys : Nat → κ,
      (c.pool.pop (byKey less keys)).1 = c.pool.items[0]? ∧
      (∀ i, (c.pool.remove (byKey less keys) i).1 = c.pool.items[i]?) ∧
      (∀ i, c.pool.size ≤ i → c.pool.remove (byKey less keys) i = (none, c.pool) ∧
        c.pool.fix (byKey less keys) i = c.pool) ∧
      ∀ item, item ∉ c.pool.items → c.pool.erase (byKey less keys) item = c.pool ∧
        c.pool.update (byKey less keys) item = c.pool := by
  have hindexed := h.indexed
  refine ⟨hindexed, fun item => ?_, h.accounted, hindexed.nodup, fun keys => ?_⟩
  · rw [← hindexed.contains_iff, contains, Option.not_isSome_iff_eq_none]
  · refine ⟨?_, fun i => ?_, fun i hi => ?_, fun item hitem => ?_⟩
    · cases hempty : c.pool.isEmpty with
      | true =>
          rw [pop_none _ hempty, Array.isEmpty_iff.1 hempty]
          rfl
      | false =>
          obtain ⟨item, htop⟩ := exists_top hempty
          obtain ⟨q, hpop, -⟩ := pop_some (byKey less keys) hindexed htop
          rw [hpop, htop]
    · by_cases hi : c.pool.size ≤ i
      · rw [remove_of_size_le _ hi, Array.getElem?_eq_none hi]
      · obtain ⟨item, hitem, -⟩ := exists_item (Nat.lt_of_not_le hi)
        obtain ⟨q, hremove, -⟩ := remove_some (byKey less keys) hindexed hitem
        rw [hremove, hitem]
    · exact ⟨remove_of_size_le _ hi, fix_of_size_le _ hi⟩
    · exact ⟨erase_of_not_mem _ hindexed hitem, update_of_not_mem _ hindexed hitem⟩

/-- With a `less` that is no order, and other keys at each operation: of three items
the one at position 1 is taken out. -/
theorem Free.bookkeeping_of_stale :
    ∃ c : Course Nat, c.Free (· != ·) ∧ c.pool.items.toList = [4, 9] ∧ c.left = [7] ∧
      c.pool.position? 7 = none ∧ [9, 4, 7].Perm (c.pool.items.toList ++ c.left) := by
  have begun := @Free.start Nat (· != ·) id
  have first := begun.next id (.push 7) fun _ _ => Array.not_mem_empty _
  have second := first.next (· + 3) (.push 4)
    fun _ hitem => Operation.push.inj hitem ▸ by decide +kernel
  have third := second.next (10 - ·) (.push 9)
    fun _ hitem => Operation.push.inj hitem ▸ by decide +kernel
  obtain ⟨c, hc, hentered, hitems, hleft⟩ :
      ∃ c : Course Nat, c.Free (· != ·) ∧ c.entered = [9, 4, 7] ∧ c.pool.items.toList = [4, 9] ∧
        c.left = [7] :=
    ⟨_, third.next (· * 2) (.remove 1) nofun, rfl, by decide +kernel, by decide +kernel⟩
  obtain ⟨-, hout, haccounted, -⟩ := hc.bookkeeping
  refine ⟨c, hc, hitems, hleft, (hout 7).2 ?_, hentered ▸ haccounted⟩
  rw [← Array.mem_toList_iff, hitems]
  decide

theorem Tended.ordered [IsStrictWeakOrder κ (less · ·)] (h : c.Tended less) :
    c.pool.Ordered (c.order less) := by
  induction h with
  | start keys => exact ordered_empty
  | next _ keys op htends ih => exact ordered_operate htends ih

/-- **The heap order** is there after each operation of a tended course: no item goes
before the one above it, at `(j - 1) / 2`.  So no item goes before the one that is on
top and comes out first, and all items come out in order when the pool is drained. -/
theorem Tended.in_order [IsStrictWeakOrder κ (less · ·)] (h : c.Tended less) :
    (∀ j x y, 0 < j → c.pool.items[(j - 1) / 2]? = some x → c.pool.items[j]? = some y →
      less (c.keys y) (c.keys x) = false) ∧
    (c.pool.isEmpty = false → ∃ item ∈ c.pool.items, c.pool.top? = some item ∧
      (c.pool.pop (c.order less)).1 = some item ∧
      ∀ x ∈ c.pool.items, less (c.keys x) (c.keys item) = false) ∧
    (c.pool.drain (c.order less)).1.Perm c.pool.items.toList ∧
    (c.pool.drain (c.order less)).1.Pairwise (fun x y => less (c.keys y) (c.keys x) = false) ∧
    (c.pool.drain (c.order less)).2.isEmpty = true := by
  have hordered := h.ordered
  have hr := @ranks_byKey κ less _ c.keys c.pool.items
  refine ⟨fun j x y hj hx hy => ?_, fun hsome => ?_, drain_go_sorted hordered hr rfl⟩
  · have habove : c.pool.lessAt (c.order less) j ((j - 1) / 2) = false :=
      hordered j hj (Array.getElem?_eq_some_iff.1 hy).1
    rw [lessAt_of_getElem? hy hx] at habove
    exact habove
  · obtain ⟨item, htop⟩ := exists_top hsome
    obtain ⟨q, hpop, -⟩ := pop_of_top (c.order less) htop
    refine ⟨item, Array.mem_of_getElem? htop, htop, ?_, hordered.top_first hr htop⟩
    rw [hpop]

/-- Of three items one gets a smaller key and moves up, and one gets a larger key and
is taken out: the other two are in order. -/
theorem Tended.in_order_of_change :
    ∃ c : Course Nat, c.Tended (fun x y => decide (x < y)) ∧ c.pool.items.toList = [0, 2] ∧
      c.left = [1] ∧
      (c.pool.drain (c.order fun x y => decide (x < y))).1.Pairwise
        (fun x y => decide (c.keys y < c.keys x) = false) := by
  have begun := @Tended.start Nat (fun x y => decide (x < y)) ([5, 3, 9].getD · 0)
  have first := begun.next _ (.push 0) fun _ _ _ hne => absurd rfl hne
  have second := first.next _ (.push 1) fun _ _ _ hne => absurd rfl hne
  have third := second.next _ (.push 2) fun _ _ _ hne => absurd rfl hne
  have raised := third.next _ (.fix 1)
    (@tends_update _ _ _ _ 1 0 (by decide +kernel) rfl (by decide +kernel) 1)
  have taken := raised.next _ (.remove 1)
    (@tends_update _ _ _ _ 1 1 (by decide +kernel) rfl (by decide +kernel) 30)
  obtain ⟨c, hc, hitems, hleft⟩ : ∃ c : Course Nat, c.Tended (fun x y => decide (x < y)) ∧
      c.pool.items.toList = [0, 2] ∧ c.left = [1] :=
    ⟨_, taken, by decide +kernel, by decide +kernel⟩
  have : IsStrictWeakOrder Nat (fun x y => decide (x < y) = true) := by
    simp only [decide_eq_true_eq]
    exact isStrictWeakOrder_of_isOrderConnected
  obtain ⟨-, -, -, hsorted, -⟩ := hc.in_order
  exact ⟨c, hc, hitems, hleft, hsorted⟩

end Course

end StreamBalancer.Pool
