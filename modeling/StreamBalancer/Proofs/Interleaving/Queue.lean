import StreamBalancer.Proofs.Interleaving.Books
import StreamBalancer.Proofs.Interleaving.Choice
import StreamBalancer.Proofs.Interleaving.Handlers

/-!
# StreamBalancer.Proofs.Interleaving.Queue

The queue of waiting requests, at every moment of every history (`Life.queue_in_order`).

1. While a request waits the pool is empty, but for the time in which the queue is being
   gone through (`Life.exclusive`).
2. What joined the queue is what left it, followed by what waits; and what left it is
   what was dispatched or refused after it had waited, in the same order, followed by
   the one whose turn it is (`Life.leaves_in_order`, `Life.served_in_order`).
3. Going through the queue comes to an end and leaves the members of the pool as they are
   (`drainPending_ends`).
-/

namespace StreamBalancer

namespace Scheduler

/-! ## Going through the queue -/

/-- While the pool has instances, a dispatch leaves its members and the queue alone. -/
theorem dispatch_keeps {s : Scheduler} (h : s.pool.Indexed) (hpool : s.pool.isEmpty = false)
    (r : Nat) :
    (s.dispatch r).pool.Indexed ∧ (s.dispatch r).pool.items.Perm s.pool.items ∧
      (s.dispatch r).pending = s.pending := by
  obtain ⟨b, htop⟩ := Pool.exists_top hpool
  obtain ⟨q, hpop, hq, hperm⟩ := Pool.pop_some s.less h htop
  have hback : ∀ less, (q.push less b).Indexed ∧ (q.push less b).items.Perm s.pool.items := by
    intro less
    obtain ⟨hindexed, hpushed⟩ := Pool.push_indexed less hq (h.not_mem_of_perm hperm)
    exact ⟨hindexed, hpushed.trans hperm.symm⟩
  rw [dispatch, hpop]
  dsimp only
  split
  · exact ⟨(hback _).1, (hback _).2, rfl⟩
  · obtain ⟨fleet, sessions, sessionCount, hcheck, -⟩ :=
      ((({ s with pool := q } : Scheduler).modifyBackend b Backend.begin).enlist b).checkTunnels_cases b
    rw [assign, hcheck]
    exact ⟨(hback _).1, (hback _).2, rfl⟩

theorem drainSome_ends (n : Nat) {s : Scheduler} (h : s.pool.Indexed) (hn : s.pending.length ≤ n) :
    ((drainSome n s).pending = [] ∨ (drainSome n s).pool.isEmpty = true) ∧
      (drainSome n s).pool.items.Perm s.pool.items := by
  induction n generalizing s with
  | zero => exact ⟨.inl (List.length_eq_zero_iff.1 (Nat.le_zero.1 hn)), .rfl⟩
  | succ n ih =>
      rw [drainSome]
      split
      · next hnone => exact ⟨.inl hnone, .rfl⟩
      · next r rest hsome =>
        split
        · next hempty => exact ⟨.inr hempty, .rfl⟩
        · next hpool =>
          rw [Bool.not_eq_true] at hpool
          obtain ⟨hindexed, hperm, hpending⟩ :=
            dispatch_keeps (s := { s with pending := rest }) h hpool r
          rw [hsome, List.length_cons] at hn
          obtain ⟨hends, hmembers⟩ :=
            ih hindexed (by rw [hpending]; exact Nat.le_of_succ_le_succ hn)
          exact ⟨hends, hmembers.trans hperm⟩

/-- **Going through the queue ends** with the queue or the pool empty, and leaves the
members of the pool as they are. -/
theorem drainPending_ends {s : Scheduler} (h : s.pool.Indexed) :
    (s.drainPending.pending = [] ∨ s.drainPending.pool.isEmpty = true) ∧
      s.drainPending.pool.items.Perm s.pool.items :=
  drainSome_ends _ h (Nat.le_refl _)

/-- Nobody waits when the scheduler has stopped. -/
theorem pending_stop (s : Scheduler) : s.stop.pending = [] := by
  simp only [stop, discardMessages, foldl_drop]
  rfl

/-! ## The queue and the pool -/

/-- While the pool has instances, a task other than the going through the queue leaves the
queue alone. -/
theorem pending_perform {s : Scheduler} {most : Nat} (h : s.roster.Sound most)
    (hpool : s.pool.isEmpty = false) {x : Task} (hx : x ≠ .drain) :
    (s.perform x).1.pending = s.pending := by
  by_cases hmoves : x.movesRequest = false
  · have hrequests := (requests_perform s hmoves).1
    simp only [requests, Prod.mk.injEq] at hrequests
    exact hrequests.2.1
  cases x with
  | request r => simp [perform, hpool]
  | dispatch r =>
      obtain ⟨b, pool, -, -, -, ⟨-, heq⟩ | ⟨-, heq⟩⟩ := perform_dispatch_of_pool h hpool r <;>
        rw [heq] <;> rfl
  | start r b => rfl
  | finished f =>
      obtain ⟨b, outcome⟩ := f
      cases outcome <;> rfl
  | drain => contradiction
  | _ => exact absurd rfl hmoves

/-- A task that may not fill the pool keeps it empty while requests wait, or leads to
the going through the queue. -/
theorem exclusive_perform {s : Scheduler} {most : Nat} (h : s.roster.Sound most) {x : Task}
    (hfilling : x.isFilling = false) (hx : x ≠ .drain)
    (hbefore : s.pending ≠ [] → s.pool.isEmpty = true) (hafter : (s.perform x).1.pending ≠ []) :
    (s.perform x).1.pool.isEmpty = true ∨ .drain ∈ (s.perform x).2 := by
  rw [← Bool.not_eq_false, or_iff_not_imp_left, not_not]
  intro hpool
  obtain ⟨b, htop⟩ := Pool.exists_top hpool
  obtain hb | ⟨a, rfl, -⟩ | ⟨a, rfl, -⟩ | ⟨rfl, hc⟩ :=
    mem_pool_perform h (Array.mem_of_getElem? htop)
  · have hold := Pool.isEmpty_eq_false_of_mem hb
    rw [pending_perform h hold hx] at hafter
    rw [hbefore hafter] at hold
    contradiction
  · contradiction
  · contradiction
  · simp [perform, hc]

end Scheduler

namespace World

open Scheduler

/-! ## What happens to the queue -/

/-- The request that joins the queue. -/
def joins (w w' : World) : Option Nat := gained? w.scheduler.pending w'.scheduler.pending

/-- The request that leaves the queue. -/
def leaves (w w' : World) : Option Nat := lost? w.scheduler.pending w'.scheduler.pending

/-- The request that is dispatched or refused. -/
def settles (w w' : World) : Option Nat :=
  ((w.assigns w').map Prod.fst).or (gained? w.books.dropped w'.books.dropped)

/-- The request that is dispatched or refused while the queue is being gone through. -/
def serves (w w' : World) : Option Nat := if .drain ∈ w.tasks then w.settles w' else none

/-- The request from the queue that is in the scheduler's hands. -/
def called (w : World) : List Nat := (w.books.hand.filter Prod.snd).map Prod.fst

theorem pending_eq (w : World) : w.scheduler.pending = w.books.pending := rfl

/-- A request in the scheduler's hands comes from the queue if that is being gone
through. -/
theorem hand_snd {w : World} {x : Nat × Bool} (hx : x ∈ w.books.hand) :
    x.2 = decide (.drain ∈ w.tasks) := by
  obtain ⟨r, -, rfl⟩ := List.mem_map.1 hx
  rfl

variable {w w' : World}

theorem Moves.passes (h : w.Moves w') : Passes w.scheduler.pending w'.scheduler.pending := by
  rw [pending_eq, pending_eq]
  cases h with
  | same h | arrives _ h => exact .same (by rw [h])
  | @waits r t _ hbefore hafter => exact .joins r (by rw [hbefore, hafter])
  | @calls r t hbefore hafter => exact .leaves r (by rw [hbefore, hafter])
  | takes hbefore hafter | assigns _ _ hbefore hafter | refuses _ hbefore hafter
  | tells _ hbefore hafter | hears hbefore hafter | handles _ _ hbefore hafter =>
      exact .same (by rw [hbefore, hafter])

/-- What leaves the queue is in the scheduler's hands until it is dispatched or refused. -/
theorem Moves.called_eq (h : w.Moves w') :
    w.called ++ (w.leaves w').toList = (w.serves w').toList ++ w'.called := by
  rw [called, called, serves, settles, World.assigns, leaves, pending_eq, pending_eq]
  cases h with
  | same h | arrives _ h => simp [h]
  | waits _ hbefore hafter => simp [hbefore, hafter]
  | calls hbefore hafter | takes hbefore hafter | tells _ hbefore hafter
  | hears hbefore hafter => simp [hbefore, hafter]
  | handles _ _ hbefore hafter =>
      simp [hbefore, hafter, List.filter_map]
  | @assigns r b q rest t _ _ hbefore hafter =>
      have hq : q = decide (.drain ∈ w.tasks) := hand_snd (x := (r, q)) (by simp [hbefore])
      cases q <;> simp_all
  | @refuses r q rest t _ hbefore hafter =>
      have hq : q = decide (.drain ∈ w.tasks) := hand_snd (x := (r, q)) (by simp [hbefore])
      cases q <;> simp_all

/-- Only a dispatch or a refusal settles a request. -/
theorem Moves.dispatch_of_settles (h : w.Moves w') {r : Nat} (hr : w.settles w' = some r) :
    ∃ q rest, w.tasks = .dispatch q :: rest := by
  rw [settles, World.assigns] at hr
  cases h with
  | assigns htasks => exact ⟨_, _, htasks⟩
  | refuses htasks => exact ⟨_, _, htasks⟩
  | same h | arrives _ h => simp [h] at hr
  | waits _ hbefore hafter | calls hbefore hafter | takes hbefore hafter
  | tells _ hbefore hafter | hears hbefore hafter | handles _ _ hbefore hafter =>
      simp [hbefore, hafter] at hr

/-- Nothing joins the queue while it is being gone through. -/
theorem Moves.joins_of_drain (h : w.Moves w') (hdrain : .drain ∈ w.tasks) : w.joins w' = none := by
  rw [joins, pending_eq, pending_eq]
  cases h with
  | same h | arrives _ h => simp [h]
  | @waits r t _ hbefore hafter =>
      have hflag : false = decide (.drain ∈ w.tasks) :=
        hand_snd (x := (r, false)) (by rw [hbefore]; exact List.mem_singleton_self _)
      simp [hdrain] at hflag
  | calls hbefore hafter | takes hbefore hafter | assigns _ _ hbefore hafter
  | refuses _ hbefore hafter | tells _ hbefore hafter | hears hbefore hafter
  | handles _ _ hbefore hafter =>
      simp [hbefore, hafter]

end World

namespace Life

open Scheduler World

variable {settings : Settings} {permits : Nat} {w w' : World} {past : List World}

/-- **While a request waits the pool is empty**, or the queue is being gone through. -/
theorem exclusive (life : Life settings permits (w :: past)) (h : w.scheduler.pending ≠ []) :
    w.scheduler.pool.isEmpty = true ∨ .drain ∈ w.tasks := by
  induction life using Life.induct with
  | initial => contradiction
  | signalled _ ih => exact ih h
  | @kept w _ _ life step ih =>
      cases step with
      | @perform x rest htasks =>
          by_cases hrest : .drain ∈ rest
          · exact .inr (List.mem_append_right _ hrest)
          by_cases hx : x = .drain
          · subst hx
            cases hpool : w.scheduler.pool.isEmpty with
            | true =>
                left
                simp only [Scheduler.perform]
                split <;> simp [hpool]
            | false =>
                right
                simp only [Scheduler.perform] at h ⊢
                split <;> simp_all
          · have hnot : .drain ∉ w.tasks := by simp [htasks, hrest, Ne.symm hx]
            have hfilling : x.isFilling = false := by
              rw [← Bool.not_eq_true]
              exact fun hx => hnot (life.drain_mem (htasks ▸ List.mem_cons_self) hx)
            obtain hpool | hmem := exclusive_perform life.sound.roster hfilling hx
              (fun hpending => (ih hpending).resolve_right hnot) h
            · exact .inl hpool
            · exact .inr (List.mem_append_left _ hmem)
      | receive htasks hreceives =>
          rw [htasks] at ih
          refine .inl ?_
          cases hreceives <;> exact (ih h).resolve_right List.not_mem_nil
      | query htasks =>
          rw [htasks] at ih
          exact .inl ((ih h).resolve_right List.not_mem_nil)
      | arrive _ haccept =>
          obtain rfl := accept?_eq haccept
          exact ih h
      | work hwork =>
          have hpending := congrArg Prod.snd hwork.waiting_eq
          have hpool := congrArg Roster.pool hwork.roster_eq
          obtain hempty | hdrain := ih fun hnone => h (Eq.trans hpending hnone)
          · exact .inl ((congrArg Pool.isEmpty hpool).trans hempty)
          · exact .inr hdrain

/-- **What joined the queue is what left it, followed by what waits.** -/
theorem leaves_in_order (life : Life settings permits (w :: past)) :
    gather joins (w :: past) = gather leaves (w :: past) ++ w.scheduler.pending :=
  life.induct_moves (P := fun w past =>
    gather joins (w :: past) = gather leaves (w :: past) ++ w.scheduler.pending)
    rfl fun _ h ih => h.passes.fifo ih

/-- **What left the queue was dispatched or refused**, in the same order, but for the
request whose turn it is. -/
theorem served_in_order (life : Life settings permits (w :: past)) :
    gather leaves (w :: past) = gather serves (w :: past) ++ w.called := by
  refine life.induct_moves (P := fun w past =>
    gather leaves (w :: past) = gather serves (w :: past) ++ w.called) rfl fun _ h ih => ?_
  rw [gather_cons, gather_cons, ih, List.append_assoc, List.append_assoc, h.called_eq]

/-- **No request overtakes another one**: one that is dispatched or refused without
having waited finds the queue empty. -/
theorem pending_of_settles (life : Life settings permits (w :: past)) (step : w.Step w') {r : Nat}
    (hsettles : w.settles w' = some r) (hserves : w.serves w' = none) :
    w.scheduler.pending = [] := by
  obtain ⟨q, rest, htasks⟩ := (life.moves step).dispatch_of_settles hsettles
  have hpool := life.pool_of_dispatch (htasks ▸ List.mem_cons_self)
  by_contra hpending
  obtain hempty | hdrain := life.exclusive hpending
  · rw [hempty] at hpool
    contradiction
  · rw [serves, if_pos hdrain, hsettles] at hserves
    contradiction

/-- **The queue is exclusive, and first come is first served.**  In every history:

* between two messages the pool is empty if a request waits;
* requests leave the queue in the order in which they joined it, and are dispatched or
  refused in that order;
* one that is dispatched or refused without having waited finds the queue empty;
* nothing joins the queue while it is being gone through, and going through it comes to an
  end, with the queue or the pool empty and the members of the pool as they were;
* nobody is left waiting when the scheduler stops. -/
theorem queue_in_order (life : Life settings permits (w :: past)) :
    (w.tasks = [] → w.scheduler.pending ≠ [] → w.scheduler.pool.isEmpty = true) ∧
    (gather joins (w :: past) = gather leaves (w :: past) ++ w.scheduler.pending ∧
      gather leaves (w :: past) = gather serves (w :: past) ++ w.called) ∧
    (∀ w' r, w.Step w' → w.settles w' = some r → w.serves w' = none → w.scheduler.pending = []) ∧
    ((∀ w', w.Step w' → .drain ∈ w.tasks → w.joins w' = none) ∧
      Does w.scheduler [.drain] w.scheduler.drainPending ∧
      (w.scheduler.drainPending.pending = [] ∨ w.scheduler.drainPending.pool.isEmpty = true) ∧
      w.scheduler.drainPending.pool.items.Perm w.scheduler.pool.items) ∧
    w.scheduler.stop.pending = [] := by
  refine ⟨fun htasks hpending => ?_, ⟨life.leaves_in_order, life.served_in_order⟩,
    fun w' r step => life.pending_of_settles step,
    ⟨fun w' step => (life.moves step).joins_of_drain, does_drain _,
      drainPending_ends life.sound.roster.indexed⟩, pending_stop _⟩
  have hexclusive := life.exclusive hpending
  rw [htasks] at hexclusive
  exact hexclusive.resolve_right List.not_mem_nil

/-- A history in which a request waits until an instance comes up, and is then
dispatched. -/
theorem queue_in_order_of_one :
    ∃ w past, Life ⟨.leastLoaded, false, 1, 1, 0, ⟨0, 0⟩, default⟩ 1 (w :: past) ∧
      gather joins (w :: past) = [0] ∧ gather serves (w :: past) = [0] ∧
      w.scheduler.pool.isEmpty = false := by
  have begun := @Life.start ⟨.leastLoaded, false, 1, 1, 0, ⟨0, 0⟩, default⟩ 1
  -- a request comes and waits
  have accepted := begun.step (@Step.arrive _ 0 _ (by decide +kernel) (if_neg (by decide +kernel)))
  have taken := accepted.step
    (.receive rfl (@Receives.request _ 0 [] (by decide +kernel)) (.request 0))
  have queued := (taken.step (step_next (by decide +kernel))).step (step_next (by decide +kernel))
  -- a snapshot makes an instance, which takes requests at once
  have posted := queued.step (.work (.post (.ofHealthy ["a"])))
  have opened := posted.step
    (.receive rfl (.snapshot rfl) (.snapshot _ (by decide) .rfl .rfl (.inl rfl)))
  have ready := (opened.step (step_next (by decide +kernel))).step (step_next (by decide +kernel))
  -- the request is dispatched
  have called := (ready.step (step_next (by decide +kernel))).step (step_next (by decide +kernel))
  obtain ⟨-, ⟨hleaves, hserved⟩, -⟩ := queue_in_order called
  refine ⟨_, _, called, ?_, by decide +kernel, by decide +kernel⟩
  rw [hleaves, hserved]
  decide +kernel

end Life

end StreamBalancer
