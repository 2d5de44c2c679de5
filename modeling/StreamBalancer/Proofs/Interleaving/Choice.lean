import StreamBalancer.Proofs.Interleaving.Handlers
import StreamBalancer.Proofs.Interleaving.Life
import StreamBalancer.Proofs.Interleaving.Load
import StreamBalancer.Proofs.Metrics
import StreamBalancer.Proofs.Pool.Order

/-!
# StreamBalancer.Proofs.Interleaving.Choice

A request goes to the best instance of the pool (`Life.best_chosen`).

1. The order of two instances depends on their ranks only, that is on load and
   weight (`less_congr`).  It ranks instances that exist (`ranks_less`).
2. Whenever a load changes, the pool is put in order again in the same step, or the
   instance is outside; so the pool is in order at every moment (`Life.pool_ordered`).
3. The top of a pool in order is the best of it (`best_of_top`), and weights are
   distinct, so in failover mode there is no other.
-/

namespace StreamBalancer

namespace Scheduler

/-! ## Ranks -/

/-- What the order of the pool reads of an instance: its load and its weight. -/
def rank (s : Scheduler) (b : Nat) : Option (Nat × Nat) :=
  (s.fleet.backend? b).map fun x => (x.ongoing, x.weight)

/-- The weight of an instance. -/
def weight (s : Scheduler) (b : Nat) : Nat := ((s.fleet.backend? b).map Backend.weight).getD 0

theorem rank_eq (s : Scheduler) (b : Nat) :
    s.rank b = (s.roster.identities[b]?).map fun x => (s.ongoing b, x.weight) := by
  rw [getElem?_identities, rank, ongoing]
  cases s.fleet.backend? b <;> rfl

theorem less_eq (s : Scheduler) (x y : Nat) :
    s.less x y =
      match s.rank x, s.rank y with
      | some a, some b =>
        match s.settings.mode with
        | .leastLoaded => decide (a.1 < b.1)
        | .failover => decide (a.2 < b.2)
      | _, _ => false := by
  simp only [less, ScheduleMode.less, rank, Fleet.backend?]
  cases s.fleet.backends[x]? with
  | none => rfl
  | some a => cases s.fleet.backends[y]? <;> rfl

theorem less_congr {s t : Scheduler} (hmode : t.settings = s.settings) {x y : Nat}
    (hx : t.rank x = s.rank x) (hy : t.rank y = s.rank y) : t.less x y = s.less x y := by
  rw [less_eq, less_eq, hmode, hx, hy]

/-- Whoever leaves identity and load of an instance alone leaves its rank. -/
theorem rank_congr {s t : Scheduler} {b : Nat}
    (hidentity : t.roster.identities[b]? = s.roster.identities[b]?)
    (hongoing : t.ongoing b = s.ongoing b) : t.rank b = s.rank b := by
  rw [rank_eq, rank_eq, hidentity, hongoing]

theorem rank_modifyBackend_of_ne (s : Scheduler) {b c : Nat} (change : Backend → Backend)
    (h : c ≠ b) : (s.modifyBackend b change).rank c = s.rank c := by
  rw [rank, modifyBackend, Fleet.backend?_modifyBackend, if_neg h]
  rfl

theorem isSome_rank_iff (s : Scheduler) (b : Nat) :
    (s.rank b).isSome = true ↔ b < s.fleet.backends.size := by
  rw [rank, Option.isSome_map, Fleet.backend?, isSome_getElem?]

/-- The order ranks instances that exist. -/
theorem ranks_less {s : Scheduler} {items : Array Nat}
    (h : ∀ b ∈ items, b < s.fleet.backends.size) : Pool.Ranks s.less items := by
  have hrank : ∀ b ∈ items, ∃ k, s.rank b = some k := fun b hb =>
    Option.isSome_iff_exists.1 ((isSome_rank_iff s b).2 (h b hb))
  refine ⟨fun x hx y hy hless => ?_, fun x hx y hy z hz hyx hzy => ?_⟩
  · obtain ⟨i, hi⟩ := hrank x hx
    obtain ⟨j, hj⟩ := hrank y hy
    rw [less_eq, hi, hj] at hless
    rw [less_eq, hi, hj]
    cases hmode : s.settings.mode with
    | leastLoaded | failover =>
        rw [hmode] at hless
        have hlt := of_decide_eq_true hless
        exact decide_eq_false (by omega)
  · obtain ⟨i, hi⟩ := hrank x hx
    obtain ⟨j, hj⟩ := hrank y hy
    obtain ⟨k, hk⟩ := hrank z hz
    rw [less_eq, hi, hj] at hyx
    rw [less_eq, hj, hk] at hzy
    rw [less_eq, hi, hk]
    cases hmode : s.settings.mode with
    | leastLoaded | failover =>
        rw [hmode] at hyx hzy
        have hle := of_decide_eq_false hyx
        have hle' := of_decide_eq_false hzy
        exact decide_eq_false (by omega)

/-- Those in the pool exist. -/
theorem lt_size_of_pooled {s : Scheduler} {most : Nat} (h : s.roster.Sound most) {b : Nat}
    (hb : b ∈ s.pool.items) : b < s.fleet.backends.size := by
  obtain ⟨a, ha⟩ := h.pooled b hb
  rw [← length_identities]
  exact h.lt_of_tracked (Roster.Sound.tracked_of_schedulable ha)

theorem ranks_pool {s : Scheduler} {most : Nat} (h : s.roster.Sound most) :
    Pool.Ranks s.less s.pool.items := ranks_less fun _ => lt_size_of_pooled h

/-! ## The pool stays in order -/

/-- A pool stays in order when neither it nor the ranks in it change. -/
theorem ordered_of_same {s t : Scheduler} (h : s.pool.Ordered s.less) (hpool : t.pool = s.pool)
    (hsettings : t.settings = s.settings) (hrank : ∀ b ∈ s.pool.items, t.rank b = s.rank b) :
    t.pool.Ordered t.less := by
  rw [hpool]
  exact h.congr fun x hx y hy => less_congr hsettings (hrank x hx) (hrank y hy)

/-- An instance is put in whose load may just have changed. -/
theorem ordered_enlist {s t : Scheduler} {q : Pool} {b : Nat} (h : q.Ordered s.less)
    (hpool : t.pool = q) (hsettings : t.settings = s.settings)
    (hrank : ∀ c ∈ q.items, t.rank c = s.rank c) (hb : b < t.fleet.backends.size)
    (hexist : ∀ c ∈ q.items, c < t.fleet.backends.size) :
    (t.enlist b).pool.Ordered (t.enlist b).less := by
  have hpushed : (t.pool.push t.less b).Ordered t.less := by
    rw [hpool]
    apply Pool.ordered_push
    · exact h.congr fun x hx y hy => less_congr hsettings (hrank x hx) (hrank y hy)
    · apply ranks_less
      intro c hc
      obtain hc | rfl := Array.mem_push.1 hc
      · exact hexist c hc
      · exact hb
  exact hpushed

theorem ordered_dispatch {s : Scheduler} {most : Nat} (h : s.roster.Sound most)
    (hordered : s.pool.Ordered s.less) (r : Nat) :
    (s.perform (.dispatch r)).1.pool.Ordered (s.perform (.dispatch r)).1.less := by
  simp only [perform]
  cases htop : s.pool.items[0]? with
  | none =>
      have hempty : s.pool.isEmpty = true := by
        rw [Pool.isEmpty, Array.isEmpty_iff_size_eq_zero]
        have hsize := Array.getElem?_eq_none_iff.1 htop
        omega
      rw [Pool.pop_none s.less hempty]
      exact hordered
  | some b =>
      have hindexed : s.pool.Indexed := h.indexed
      obtain ⟨q, hpop, -, hperm⟩ := Pool.pop_some s.less hindexed htop
      have hq : q.Ordered s.less := by
        have hpopped := Pool.ordered_pop hordered (ranks_pool h)
        rw [hpop] at hpopped
        exact hpopped
      have hb := lt_size_of_pooled h (Array.mem_of_getElem? htop)
      have hmem : ∀ c ∈ q.items, c ∈ s.pool.items := fun c hc =>
        hperm.mem_iff.2 (Array.mem_push.2 (.inl hc))
      have hne : ∀ c ∈ q.items, c ≠ b := fun c hc hcb =>
        hindexed.not_mem_of_perm hperm (hcb ▸ hc)
      rw [hpop]
      dsimp only
      split
      · exact ordered_enlist (s := s) (t := { s with pool := q }) hq rfl rfl (fun _ _ => rfl) hb
          fun c hc => lt_size_of_pooled h (hmem c hc)
      · have hsize : (({ s with pool := q }).modifyBackend b Backend.begin).fleet.backends.size =
            s.fleet.backends.size := Array.size_modify
        have hrank : ∀ c ∈ q.items,
            (({ s with pool := q }).modifyBackend b Backend.begin).rank c = s.rank c :=
          fun c hc => rank_modifyBackend_of_ne { s with pool := q } _ (hne c hc)
        refine ordered_enlist (s := s) hq rfl rfl hrank (by rw [hsize]; exact hb) fun c hc => ?_
        rw [hsize]
        exact lt_size_of_pooled h (hmem c hc)

theorem ordered_finished {s : Scheduler} {most : Nat} (h : s.roster.Sound most)
    (hordered : s.pool.Ordered s.less) (f : Finished) :
    (s.perform (.finished f)).1.pool.Ordered (s.perform (.finished f)).1.less := by
  have hranks := ranks_pool h
  have hranks' : Pool.Ranks (s.modifyBackend f.backend Backend.finish).less s.pool.items := by
    apply ranks_less
    intro c hc
    have hsize : (s.modifyBackend f.backend Backend.finish).fleet.backends.size =
        s.fleet.backends.size := Array.size_modify
    rw [hsize]
    exact lt_size_of_pooled h hc
  have hsame : ∀ x ∈ s.pool.items, ∀ y ∈ s.pool.items, x ≠ f.backend → y ≠ f.backend →
      (s.modifyBackend f.backend Backend.finish).less x y = s.less x y := by
    intro x _ y _ hx hy
    exact less_congr (s := s) (t := s.modifyBackend f.backend Backend.finish) rfl
      (rank_modifyBackend_of_ne s _ hx) (rank_modifyBackend_of_ne s _ hy)
  obtain ⟨b, outcome⟩ := f
  cases outcome with
  | completed | failed => exact Pool.ordered_update hordered hranks h.indexed hranks' b hsame
  | dialFailed r => exact Pool.ordered_erase hordered hranks h.indexed hranks' b hsame

theorem ordered_remove {s : Scheduler} {most : Nat} (h : s.roster.Sound most)
    (hordered : s.pool.Ordered s.less) (a : String) :
    (s.perform (.remove a)).1.pool.Ordered (s.perform (.remove a)).1.less := by
  cases hb : s.tracked? a with
  | none =>
      rw [perform_remove_none s hb]
      exact hordered
  | some b =>
      have herased : (s.pool.erase s.less b).Ordered s.less :=
        Pool.ordered_erase hordered (ranks_pool h) h.indexed (ranks_pool h) b
          fun _ _ _ _ _ _ => rfl
      have hrank : ∀ c, (s.strike a b).rank c = s.rank c := by
        intro c
        rw [rank, strike, setOngoingGauge, modifyBackend, Fleet.setGauge]
        change ((s.fleet.modifyBackend b _).backend? c).map _ = _
        rw [Fleet.backend?_modifyBackend, rank]
        split
        · rw [Option.map_map]
          rfl
        · rfl
      have heq : (s.perform (.remove a)).1 = s.strike a b := by simp only [perform, hb]
      rw [heq]
      exact ordered_of_same (s := s.withdraw b) herased rfl rfl fun c _ => hrank c

theorem ordered_arrive {s : Scheduler} {most : Nat} (h : s.roster.Sound most)
    (hordered : s.pool.Ordered s.less) (a : String) :
    (s.perform (.arrive a)).1.pool.Ordered (s.perform (.arrive a)).1.less := by
  have hsize : (s.withBackend a).fleet.backends.size = s.fleet.backends.size + 1 :=
    Array.size_push _
  have hrank : ∀ b ∈ s.pool.items, (s.withBackend a).rank b = s.rank b := by
    intro b hb
    apply rank_congr
    · have hnew : (s.withBackend a).roster.identities =
          s.roster.identities ++ [⟨a, s.nextWeight, false⟩] := identities_addBackend _ _
      rw [hnew, List.getElem?_append_left]
      rw [length_identities]
      exact lt_size_of_pooled h hb
    · exact ongoing_withBackend s a b
  obtain ⟨-, heq⟩ | ⟨-, -, heq⟩ | ⟨-, -, heq⟩ := perform_arrive_cases s a
  · rw [heq]
    exact hordered
  · rw [heq]
    refine ordered_enlist (t := s.withBackend a) hordered rfl rfl hrank (by omega) fun c hc => ?_
    have hlt := lt_size_of_pooled h hc
    omega
  · rw [heq]
    exact ordered_of_same (t := s.withBackend a) hordered rfl rfl hrank

/-- **Every task keeps the pool in order.** -/
theorem ordered_perform {s : Scheduler} {most : Nat} (h : s.roster.Sound most)
    (hordered : s.pool.Ordered s.less) (task : Task)
    (hlive : ∀ b, task.live? = some b → s.isRetired b = false) :
    (s.perform task).1.pool.Ordered (s.perform task).1.less := by
  by_cases hroster : task.keepsRoster = true
  · have hsame := roster_perform s hroster
    have hloads : task.keepsLoads = true := by
      cases task <;> first | rfl | contradiction
    refine ordered_of_same hordered (congrArg Roster.pool hsame)
      (congrArg Prod.fst (fixed_perform s task)) fun b _ => ?_
    exact rank_congr (by rw [hsame]) (ongoing_perform s hloads b)
  cases task with
  | dispatch r => exact ordered_dispatch h hordered r
  | finished f => exact ordered_finished h hordered f
  | remove a => exact ordered_remove h hordered a
  | arrive a => exact ordered_arrive h hordered a
  | revive a =>
      simp only [perform, revive]
      split
      · next b hb =>
        split
        · exact hordered
        · refine ordered_enlist hordered rfl rfl (fun _ _ => rfl) ?_ fun c => lt_size_of_pooled h
          rw [← length_identities]
          exact h.lt_of_tracked (Roster.Sound.tracked_of_schedulable hb)
      · exact hordered
  | connected b =>
      simp only [perform]
      split
      · have hb : b < s.fleet.backends.size := by
          rw [← length_identities]
          exact h.lt_of_tracked ((tracked_iff h (s.address b) b).2 ⟨hlive b rfl, rfl⟩)
        exact ordered_enlist (t := { s with connecting := s.connecting.erase (s.address b) })
          hordered
          rfl rfl (fun _ _ => rfl) hb fun c => lt_size_of_pooled h
      · exact hordered
  | _ => exact absurd rfl hroster

/-! ## The best instance -/

/-- An instance of the pool that no other one of it is to be preferred to. -/
structure Best (s : Scheduler) (b : Nat) : Prop where
  pooled : b ∈ s.pool.items
  /-- None has fewer forwards. -/
  leastLoaded : s.settings.mode = .leastLoaded → ∀ c ∈ s.pool.items, s.ongoing b ≤ s.ongoing c
  /-- All others have greater weights. -/
  failover : s.settings.mode = .failover → ∀ c ∈ s.pool.items, c ≠ b → s.weight b < s.weight c

/-- The weight of an instance is its number. -/
theorem weight_eq {s : Scheduler} {most : Nat} (h : s.roster.Sound most) (b : Nat) :
    s.weight b = if b < s.fleet.backends.size then b else 0 := by
  have hidentity := s.getElem?_identities b
  rw [weight]
  split
  · next hlt =>
    rw [Fleet.backend?, Array.getElem?_eq_getElem hlt] at hidentity ⊢
    exact h.weights b _ hidentity
  · next hge =>
    rw [Fleet.backend?, Array.getElem?_eq_none (Nat.le_of_not_lt hge)]
    rfl

theorem best_of_top {s : Scheduler} {most : Nat} (h : s.roster.Sound most)
    (hordered : s.pool.Ordered s.less) {b : Nat} (htop : s.pool.items[0]? = some b) : s.Best b := by
  have hfirst := hordered.top_first (ranks_pool h) htop
  have hrank : ∀ c ∈ s.pool.items, s.rank c = some (s.ongoing c, c) ∧ s.weight c = c := by
    intro c hc
    have hlt := lt_size_of_pooled h hc
    have hweight := weight_eq h c
    rw [if_pos hlt] at hweight
    refine ⟨?_, hweight⟩
    rw [weight] at hweight
    rw [rank, ongoing]
    rw [Fleet.backend?, Array.getElem?_eq_getElem hlt] at hweight ⊢
    exact congrArg (fun n => some (_, n)) hweight
  have hb := Array.mem_of_getElem? htop
  refine ⟨hb, fun hmode c hc => ?_, fun hmode c hc hne => ?_⟩
  · have hless := hfirst c hc
    rw [less_eq, (hrank c hc).1, (hrank b hb).1, hmode] at hless
    exact Nat.le_of_not_lt (of_decide_eq_false hless)
  · have hless := hfirst c hc
    rw [less_eq, (hrank c hc).1, (hrank b hb).1, hmode] at hless
    have hle := Nat.le_of_not_lt (of_decide_eq_false hless)
    rw [(hrank c hc).2, (hrank b hb).2]
    exact Nat.lt_of_le_of_ne hle (Ne.symm hne)

/-! ## What becomes of a request -/

/-- A request is refused: it is given up and counted, and no instance is any different
for it. -/
structure Refuses (s : Scheduler) (r : Nat) (t : Scheduler) : Prop where
  dropped : t.dropped = s.dropped ++ [r]
  rejected : t.fleet.metrics.value .rejected = s.fleet.metrics.value .rejected + 1
  forwards : t.forwards = s.forwards
  pending : t.pending = s.pending
  pool : t.pool.items.Perm s.pool.items
  ongoing : ∀ c, t.ongoing c = s.ongoing c

/-- A request is handed to an instance, which stays in the pool with one more forward. -/
structure Hands (s : Scheduler) (r b : Nat) (t : Scheduler) : Prop where
  forwards : t.forwards = s.forwards ++ [{ request := r, backend := b }]
  dropped : t.dropped = s.dropped
  pending : t.pending = s.pending
  pool : t.pool.items.Perm s.pool.items
  ongoing : ∀ c, t.ongoing c = if c = b then s.ongoing b + 1 else s.ongoing c

theorem Hands.not_refuses {s t : Scheduler} {r b : Nat} (h : s.Hands r b t) : ¬s.Refuses r t := by
  intro h'
  have hlength := congrArg List.length (h.dropped.symm.trans h'.dropped)
  simp at hlength

/-- Asking for new tunnels changes the fleet and the sessions, and no load. -/
theorem checkTunnels_cases (s : Scheduler) (b : Nat) :
    ∃ fleet sessions sessionCount,
      s.checkTunnels b = { s with fleet, sessions, sessionCount } ∧
      ∀ c, ({ s with fleet }).ongoing c = s.ongoing c := by
  have hload : ∀ x : Backend,
      (x.countDispatch.inspect s.settings.policy s.uptime s.fleet.nextId).2.ongoing = x.ongoing := by
    intro x
    unfold Backend.inspect
    split <;> rfl
  rw [checkTunnels, Fleet.checkTunnels]
  cases s.fleet.backend? b with
  | none => exact ⟨s.fleet, s.sessions, s.sessionCount, rfl, fun _ => rfl⟩
  | some x =>
      dsimp only
      rw [foldl_requestSession]
      refine ⟨_, _, _, rfl, fun c => ongoing_withFleet s c ?_⟩
      rw [(Fleet.foldl_count_replaced _ _).1]
      exact Fleet.map_modifyBackend _ fun y _ => hload y

/-- The top of the pool gets the request, unless it is at the ceiling. -/
theorem onRequest_of_top {s : Scheduler} {most : Nat} (h : s.roster.Sound most) {b : Nat}
    (htop : s.pool.items[0]? = some b) (r : Nat) :
    if s.settings.ceiling ≤ s.ongoing b then s.Refuses r (s.onRequest r)
    else s.Hands r b (s.onRequest r) := by
  have hsome : s.pool.isEmpty = false := by
    rw [Pool.isEmpty, Array.isEmpty_eq_false_iff]
    exact Array.ne_empty_of_size_pos (Array.getElem?_eq_some_iff.1 htop).1
  have hindexed : s.pool.Indexed := h.indexed
  obtain ⟨q, hpop, hq, hperm⟩ := Pool.pop_some s.less hindexed htop
  have hback : ∀ less, (q.push less b).items.Perm s.pool.items := fun less =>
    (Pool.push_indexed less hq (hindexed.not_mem_of_perm hperm)).2.trans hperm.symm
  rw [onRequest, hsome, if_neg Bool.false_ne_true, dispatch, hpop]
  dsimp only
  by_cases hfull : s.settings.ceiling ≤ s.ongoing b
  · have hfull' : ({ s with pool := q } : Scheduler).settings.ceiling ≤
        ({ s with pool := q } : Scheduler).ongoing b := hfull
    rw [if_pos hfull, if_pos hfull']
    refine ⟨rfl, ?_, rfl, rfl, hback _, fun _ => rfl⟩
    exact (Metrics.value_count _ _ _).trans (if_pos rfl)
  · have hroom : ¬({ s with pool := q } : Scheduler).settings.ceiling ≤
        ({ s with pool := q } : Scheduler).ongoing b := hfull
    rw [if_neg hfull, if_neg hroom]
    obtain ⟨fleet, sessions, sessionCount, hcheck, hongoing⟩ :=
      ((({ s with pool := q } : Scheduler).modifyBackend b Backend.begin).enlist b).checkTunnels_cases b
    rw [assign, hcheck]
    refine ⟨rfl, rfl, rfl, hback _, fun c => (hongoing c).trans ?_⟩
    exact ongoing_begin h (Array.mem_of_getElem? htop) q c

end Scheduler

namespace Life

open Scheduler World

variable {settings : Settings} {permits : Nat} {w : World} {past : List World}

/-- **The pool is in order at every moment**, by the loads and weights of that moment. -/
theorem pool_ordered (life : Life settings permits (w :: past)) :
    w.scheduler.pool.Ordered w.scheduler.less := by
  induction life using Life.induct with
  | initial => exact Pool.ordered_empty
  | signalled _ ih => exact ih
  | kept life step ih =>
      have hsound := life.sound
      cases step with
      | perform htasks =>
          refine ordered_perform hsound.roster ih _ (hsound.live _ ?_)
          rw [htasks]
          exact List.mem_cons_self
      | receive _ hreceives => cases hreceives <;> exact ih
      | query => exact ih
      | arrive _ haccept =>
          obtain rfl := accept?_eq haccept
          exact ih
      | work h =>
          refine ordered_of_same ih (congrArg Roster.pool h.roster_eq)
            (congrArg Prod.fst h.fixed_eq) fun b _ => ?_
          exact rank_congr (by rw [h.roster_eq]) (h.ongoing_eq b)

/-- **The best instance is chosen.**  At every moment of every history, a request that
comes while the pool has instances goes to the best of them, or is refused because that
one is at the ceiling.  So in the least-loaded mode a request is refused only if all
instances of the pool are at the ceiling. -/
theorem best_chosen (life : Life settings permits (w :: past))
    (hpool : w.scheduler.pool.isEmpty = false) (r : Nat) :
    (∃ b, w.scheduler.Best b ∧
      (w.scheduler.Refuses r (w.scheduler.onRequest r) ↔ settings.ceiling ≤ w.scheduler.ongoing b) ∧
      (w.scheduler.Hands r b (w.scheduler.onRequest r) ↔ w.scheduler.ongoing b < settings.ceiling)) ∧
    (settings.mode = .leastLoaded → w.scheduler.Refuses r (w.scheduler.onRequest r) →
      ∀ c ∈ w.scheduler.pool.items, settings.ceiling ≤ w.scheduler.ongoing c) := by
  have hroster := life.sound.roster
  have hsettings := life.steady.1
  obtain ⟨b, htop⟩ := Pool.exists_top hpool
  have hbest := best_of_top hroster life.pool_ordered htop
  have hends := onRequest_of_top hroster htop r
  rw [hsettings] at hends
  have hrefuses : w.scheduler.Refuses r (w.scheduler.onRequest r) ↔
      settings.ceiling ≤ w.scheduler.ongoing b := by
    split at hends
    · next hfull => exact ⟨fun _ => hfull, fun _ => hends⟩
    · next hroom => exact ⟨fun h => absurd h hends.not_refuses, fun h => absurd h hroom⟩
  have hhands : w.scheduler.Hands r b (w.scheduler.onRequest r) ↔
      w.scheduler.ongoing b < settings.ceiling := by
    split at hends
    · next hfull =>
      exact ⟨fun h => absurd hends h.not_refuses, fun h => absurd hfull (Nat.not_le.2 h)⟩
    · next hroom => exact ⟨fun _ => Nat.lt_of_not_le hroom, fun _ => hends⟩
  refine ⟨⟨b, hbest, hrefuses, hhands⟩, fun hmode h c hc => ?_⟩
  exact Nat.le_trans (hrefuses.1 h) (hbest.leastLoaded (hsettings ▸ hmode) c hc)

/-- A history with two instances, one of which has a forward: after the signal to shut
down, a second request goes to the other one. -/
theorem best_chosen_of_two :
    ∃ w past, Life ⟨.leastLoaded, false, 2, 1, 0, ⟨0, 0⟩, default⟩ 2 (w :: past) ∧
      w.scheduler.pool.isEmpty = false ∧ w.scheduler.ongoing 0 = 1 ∧
      w.scheduler.Hands 1 1 (w.scheduler.onRequest 1) := by
  have begun := @Life.start ⟨.leastLoaded, false, 2, 1, 0, ⟨0, 0⟩, default⟩ 2
  -- a snapshot makes two instances, which have no slots and take requests at once
  have posted := begun.step (.work (.post (.ofHealthy ["a", "b"])))
  have opened := posted.step
    (.receive rfl (.snapshot rfl) (.snapshot _ (by decide) .rfl .rfl (.inl rfl)))
  have revived := (opened.step (step_next (by decide +kernel))).step (step_next (by decide +kernel))
  have arrived :=
    (revived.step (step_next (by decide +kernel))).step (step_next (by decide +kernel))
  have ready := (arrived.step (step_next (by decide +kernel))).step (step_next (by decide +kernel))
  -- a request comes, is dispatched and its forward started
  have accepted := ready.step (@Step.arrive _ 0 _ (by decide +kernel) (if_neg (by decide +kernel)))
  have taken := accepted.step
    (.receive (by decide +kernel) (@Receives.request _ 0 [] (by decide +kernel)) (.request 0))
  have chosen := (taken.step (step_next (by decide +kernel))).step (step_next (by decide +kernel))
  have started := (chosen.step (step_next (by decide +kernel))).step (step_next (by decide +kernel))
  obtain ⟨w, past, life, hsome, hpool, hzero, hone⟩ :
      ∃ w past, Life ⟨.leastLoaded, false, 2, 1, 0, ⟨0, 0⟩, default⟩ 2 (w :: past) ∧
        w.scheduler.pool.isEmpty = false ∧ w.scheduler.pool.items.toList = [1, 0] ∧
        w.scheduler.ongoing 0 = 1 ∧ w.scheduler.ongoing 1 = 0 :=
    ⟨_, _, started.signal, by decide +kernel, by decide +kernel, by decide +kernel,
      by decide +kernel⟩
  have hmem : ∀ c, c ∈ w.scheduler.pool.items ↔ c = 1 ∨ c = 0 := by
    intro c
    rw [← Array.mem_toList_iff, hpool, List.mem_pair]
  obtain ⟨⟨b, hbest, -, hhands⟩, -⟩ := best_chosen life hsome 1
  have hleast := hbest.leastLoaded (congrArg Settings.mode life.steady.1) 1 ((hmem 1).2 (.inl rfl))
  obtain rfl | rfl := (hmem b).1 hbest.pooled
  · exact ⟨w, past, life, hsome, hzero, hhands.2 (by rw [hone]; exact Nat.one_pos)⟩
  · omega

end Life

end StreamBalancer
