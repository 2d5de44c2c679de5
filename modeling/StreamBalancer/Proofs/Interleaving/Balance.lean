import Mathlib.Algebra.Order.BigOperators.Group.Finset
import Mathlib.Data.Finset.Max
import StreamBalancer.Proofs.Interleaving.Replay

/-!
# StreamBalancer.Proofs.Interleaving.Balance

In the least-loaded mode requests level the loads of the pool.

1. `Scheduler.spread` is the distance between the greatest and the smallest load of the
   pool.  One more forward for an instance with the smallest load does not widen it beyond
   one (`spread_of_raise`).
2. While the scheduler hears nothing but requests, whatever it does leaves the pool as it
   is, refuses a request, or raises a smallest load (`World.Filled`, `filled_step`).
3. So after any number of requests the spread is at most what it was, or one; and from a
   level pool every instance gets its share of them (`Life.levelled`).
-/

namespace StreamBalancer

/-! ## Levels -/

/-- The distance between the greatest and the smallest of some numbers. -/
def spreadOf (l : List Nat) : Nat := l.max?.getD 0 - l.min?.getD 0

theorem spreadOf_le_iff (l : List Nat) (d : Nat) :
    spreadOf l ≤ d ↔ ∀ x ∈ l, ∀ y ∈ l, x ≤ y + d := by
  by_cases hnil : l = []
  · subst hnil
    simp [spreadOf]
  obtain ⟨most, hmost⟩ := Option.ne_none_iff_exists'.1 (mt List.max?_eq_none_iff.1 hnil)
  obtain ⟨least, hleast⟩ := Option.ne_none_iff_exists'.1 (mt List.min?_eq_none_iff.1 hnil)
  obtain ⟨hmem, hle⟩ := List.max?_eq_some_iff.1 hmost
  obtain ⟨hmem', hle'⟩ := List.min?_eq_some_iff.1 hleast
  rw [spreadOf, hmost, hleast, Option.getD_some, Option.getD_some]
  constructor
  · intro h x hx y hy
    have hx := hle x hx
    have hy := hle' y hy
    omega
  · intro h
    have hends := h most hmem least hmem'
    omega

/-- Shares of `n` that differ by one at most are `n` divided by their number, rounded down
or up. -/
theorem share_eq {members : Finset Nat} {share : Nat → Nat} {n : Nat}
    (hsum : ∑ b ∈ members, share b = n)
    (hlevel : ∀ b ∈ members, ∀ c ∈ members, share b ≤ share c + 1) {b : Nat} (hb : b ∈ members) :
    share b = n / members.card ∨ share b = (n + members.card - 1) / members.card := by
  obtain ⟨c, hc, hleast⟩ := members.exists_min_image share ⟨b, hb⟩
  have hcard : 0 < members.card := Finset.card_pos.2 ⟨b, hb⟩
  have hlow : members.card * share c ≤ n := by
    rw [← hsum, ← Nat.nsmul_eq_mul]
    exact Finset.card_nsmul_le_sum _ _ _ hleast
  have hhigh : n < members.card * (share c + 1) := by
    rw [← hsum, ← Nat.nsmul_eq_mul, ← Finset.sum_const]
    exact Finset.sum_lt_sum (fun d hd => hlevel d hd c hc) ⟨c, hc, Nat.lt_succ_self _⟩
  have hdown : n / members.card = share c :=
    Nat.div_eq_of_lt_le (by rwa [Nat.mul_comm]) (by rwa [Nat.mul_comm])
  obtain hsame | hmore : share b = share c ∨ share b = share c + 1 := by
    have hge := hleast b hb
    have hle := hlevel b hb c hc
    omega
  · exact .inl (hsame.trans hdown.symm)
  · right
    have hmoreThan : members.card * share c < n := by
      rw [← hsum, ← Nat.nsmul_eq_mul, ← Finset.sum_const]
      exact Finset.sum_lt_sum hleast ⟨b, hb, by omega⟩
    rw [hmore]
    refine (Nat.div_eq_of_lt_le ?_ ?_).symm
    · rw [Nat.add_mul, Nat.one_mul, Nat.mul_comm]
      omega
    · rw [Nat.mul_add, Nat.mul_one] at hhigh
      rw [Nat.add_mul, Nat.add_mul, Nat.one_mul, Nat.mul_comm (share c)]
      omega

namespace Scheduler

/-- The distance between the greatest and the smallest load of the pool. -/
def spread (s : Scheduler) : Nat := spreadOf (s.pool.items.toList.map s.ongoing)

variable {s t : Scheduler}

theorem spread_le_iff (s : Scheduler) (d : Nat) :
    s.spread ≤ d ↔ ∀ b ∈ s.pool.items, ∀ c ∈ s.pool.items, s.ongoing b ≤ s.ongoing c + d := by
  simp only [spread, spreadOf_le_iff, List.forall_mem_map, Array.mem_toList_iff]

/-- The spread is that of the members and their loads, in whatever order. -/
theorem spread_congr (hpool : ∀ b, b ∈ t.pool.items ↔ b ∈ s.pool.items)
    (hloads : ∀ b, t.ongoing b = s.ongoing b) : t.spread = s.spread := by
  refine Nat.le_antisymm ((spread_le_iff t _).2 fun b hb c hc => ?_)
    ((spread_le_iff s _).2 fun b hb c hc => ?_)
  · rw [hloads, hloads]
    exact (spread_le_iff s _).1 (Nat.le_refl _) b ((hpool b).1 hb) c ((hpool c).1 hc)
  · rw [← hloads, ← hloads]
    exact (spread_le_iff t _).1 (Nat.le_refl _) b ((hpool b).2 hb) c ((hpool c).2 hc)

/-- **One more forward for a least loaded instance** does not widen the spread beyond one. -/
theorem spread_of_raise {b d : Nat} (hpool : ∀ c, c ∈ t.pool.items ↔ c ∈ s.pool.items)
    (hloads : ∀ c, t.ongoing c = if c = b then s.ongoing b + 1 else s.ongoing c)
    (hleast : ∀ c ∈ s.pool.items, s.ongoing b ≤ s.ongoing c) (hspread : s.spread ≤ d) (hd : 1 ≤ d) :
    t.spread ≤ d := by
  rw [spread_le_iff] at hspread ⊢
  intro x hx y hy
  have hxy := hspread x ((hpool x).1 hx) y ((hpool y).1 hy)
  have hby := hleast y ((hpool y).1 hy)
  rw [hloads, hloads]
  by_cases hxb : x = b
  · rw [if_pos hxb]
    split <;> omega
  · rw [if_neg hxb]
    split
    · next hyb =>
      rw [hyb] at hxy
      omega
    · exact hxy

end Scheduler

/-! ## While only requests are heard -/

namespace World

open Scheduler

/-- Since `w` so many requests were heard, and those that were dispatched went to the
instances chosen. -/
structure Filled (w v : World) (heard : Nat) (chosen : List Nat) : Prop where
  pool : v.scheduler.pool.items.Perm w.scheduler.pool.items
  loads : ∀ b, v.scheduler.ongoing b = w.scheduler.ongoing b + chosen.count b
  spread : v.scheduler.spread ≤ max w.scheduler.spread 1
  members : ∀ b ∈ chosen, b ∈ w.scheduler.pool.items
  /-- At hand is a request, or what follows on its dispatch. -/
  serving : ∀ x ∈ v.tasks, x.leavesDesk = true ∨ x.asked?.isSome = true
  /-- What was heard was dispatched or refused, or is at hand. -/
  account : heard + w.scheduler.dropped.length =
    chosen.length + v.scheduler.dropped.length + (v.tasks.filterMap Task.asked?).length

variable {w v v' : World} {heard : Nat} {chosen : List Nat}

theorem filled_refl (hrest : w.tasks = []) : w.Filled w 0 [] where
  pool := .rfl
  loads _ := rfl
  spread := Nat.le_max_left _ _
  members := nofun
  serving := by
    rw [hrest]
    exact nofun
  account := by
    rw [hrest]
    simp

namespace Filled

theorem mem_pool (h : w.Filled v heard chosen) (b : Nat) :
    b ∈ v.scheduler.pool.items ↔ b ∈ w.scheduler.pool.items := h.pool.mem_iff

theorem pool_isEmpty (h : w.Filled v heard chosen) (hpool : w.scheduler.pool.isEmpty = false) :
    v.scheduler.pool.isEmpty = false := by
  obtain ⟨b, htop⟩ := Pool.exists_top hpool
  exact Pool.isEmpty_eq_false_of_mem ((h.mem_pool b).2 (Array.mem_of_getElem? htop))

/-- What leaves tables, pool, loads and refusals alone, and may put more requests at hand. -/
theorem of_quiet (h : w.Filled v heard chosen) {more : Nat}
    (hroster : v'.scheduler.roster = v.scheduler.roster)
    (hloads : ∀ b, v'.scheduler.ongoing b = v.scheduler.ongoing b)
    (hdropped : v'.scheduler.dropped = v.scheduler.dropped)
    (hserving : ∀ x ∈ v'.tasks, x.leavesDesk = true ∨ x.asked?.isSome = true)
    (hhand : (v'.tasks.filterMap Task.asked?).length =
      (v.tasks.filterMap Task.asked?).length + more) : w.Filled v' (heard + more) chosen where
  pool := by
    have hpool : v'.scheduler.pool = v.scheduler.pool := congrArg Roster.pool hroster
    rw [hpool]
    exact h.pool
  loads b := (hloads b).trans (h.loads b)
  spread := by
    have hpool : v'.scheduler.pool = v.scheduler.pool := congrArg Roster.pool hroster
    rw [spread_congr (fun b => by rw [hpool]) hloads]
    exact h.spread
  members := h.members
  serving := hserving
  account := by
    have haccount := h.account
    rw [hhand, hdropped]
    omega

/-- The same for a step in which no message is heard and no request dispatched. -/
theorem of_idle (h : w.Filled v heard chosen) (hassigns : v.assigns v' = none)
    (hears : v.hears v' = none) (hroster : v'.scheduler.roster = v.scheduler.roster)
    (hloads : ∀ b, v'.scheduler.ongoing b = v.scheduler.ongoing b)
    (hdropped : v'.scheduler.dropped = v.scheduler.dropped)
    (hserving : ∀ x ∈ v'.tasks, x.leavesDesk = true ∨ x.asked?.isSome = true)
    (hhand : (v'.tasks.filterMap Task.asked?).length =
      (v.tasks.filterMap Task.asked?).length) :
    w.Filled v' (heard + (v.hears v').toList.length)
      (chosen ++ ((v.assigns v').toList.map Prod.snd)) := by
  simp only [hassigns, hears, Option.toList_none, List.map_nil, List.append_nil]
  exact h.of_quiet hroster hloads hdropped hserving (hhand.trans (Nat.add_zero _).symm)

/-- A request is refused. -/
theorem of_refuse (h : w.Filled v heard chosen) {r : Nat} {rest : List Task}
    (htasks : v.tasks = .dispatch r :: rest) {pool : Pool}
    (hperm : pool.items.Perm v.scheduler.pool.items) :
    w.Filled { v with scheduler := ({ v.scheduler with pool }).refuse r, tasks := rest } heard
      chosen where
  pool := hperm.trans h.pool
  loads := h.loads
  spread := by
    have hsame : (({ v.scheduler with pool } : Scheduler).refuse r).spread = v.scheduler.spread :=
      spread_congr (fun _ => hperm.mem_iff) fun _ => rfl
    exact hsame.trans_le h.spread
  members := h.members
  serving x hx := h.serving x (htasks ▸ List.mem_cons_of_mem _ hx)
  account := by
    have haccount := h.account
    rw [htasks] at haccount
    simp only [refuse, drop, count, List.length_append, List.filterMap_cons, Task.asked?,
      List.length_cons, List.length_nil] at haccount ⊢
    omega

/-- A request is handed to a least loaded instance. -/
theorem of_assign (h : w.Filled v heard chosen) {most : Nat}
    (hsound : v.scheduler.roster.Sound most) {r b : Nat} {rest : List Task}
    (htasks : v.tasks = .dispatch r :: rest) {pool : Pool}
    (hperm : pool.items.Perm v.scheduler.pool.items) (hb : b ∈ v.scheduler.pool.items)
    (hleast : ∀ c ∈ v.scheduler.pool.items, v.scheduler.ongoing b ≤ v.scheduler.ongoing c) :
    w.Filled { v with
      scheduler := ({ v.scheduler with pool }).modifyBackend b Backend.begin
      tasks := [.check b, .start r b] ++ rest } heard (chosen ++ [b]) where
  pool := hperm.trans h.pool
  loads c := by
    rw [ongoing_begin hsound hb pool c, List.count_append, List.count_singleton]
    have hold := h.loads c
    by_cases hc : c = b
    · subst hc
      simp only [if_true, beq_self_eq_true]
      omega
    · rw [if_neg hc, if_neg (by simpa using Ne.symm hc)]
      exact hold
  spread := spread_of_raise (fun c => hperm.mem_iff) (ongoing_begin hsound hb pool) hleast h.spread
    (Nat.le_max_right _ _)
  members c hc := by
    obtain hc | hc := List.mem_append.1 hc
    · exact h.members c hc
    · rw [List.mem_singleton.1 hc]
      exact (h.mem_pool b).1 hb
  serving x hx := by
    simp only [List.cons_append, List.nil_append, List.mem_cons] at hx
    obtain rfl | rfl | hx := hx
    · exact .inl rfl
    · exact .inl rfl
    · exact h.serving x (htasks ▸ List.mem_cons_of_mem _ hx)
  account := by
    have haccount := h.account
    rw [htasks] at haccount
    simp only [List.filterMap_cons, Task.asked?, List.length_cons, List.cons_append,
      List.nil_append, List.length_append, List.length_nil] at haccount ⊢
    have hdropped : (({ v.scheduler with pool } : Scheduler).modifyBackend b Backend.begin).dropped =
        v.scheduler.dropped := rfl
    rw [hdropped]
    omega

end Filled

/-- A request that is heard, or a broken tunnel, puts nothing else at hand. -/
theorem serving_of_opens {s : Scheduler} {e : Event} {tasks : List Task} (h : s.Opens e tasks)
    (he : (∃ r, e = .request r) ∨ ∃ f, e = .failure f) :
    ∀ x ∈ tasks ++ [Task.publish], x.leavesDesk = true ∨ x.asked?.isSome = true := by
  intro x hx
  cases h with
  | request r =>
      simp only [List.cons_append, List.nil_append, List.mem_cons, List.not_mem_nil, or_false] at hx
      obtain rfl | rfl := hx
      · exact .inr rfl
      · exact .inl rfl
  | failure f =>
      simp only [List.cons_append, List.nil_append, List.mem_cons, List.not_mem_nil, or_false] at hx
      obtain rfl | rfl := hx <;> exact .inl rfl
  | finished | handover | snapshot | ignored => simp at he

end World

namespace Life

open Scheduler World

variable {settings : Settings} {permits : Nat} {w v v' w' : World} {past recent : List World}
  {heard : Nat} {chosen : List Nat}

/-- A request is dispatched. -/
theorem filled_dispatch (life : Life settings permits (v :: past))
    (hmode : settings.mode = .leastLoaded) (hpool : w.scheduler.pool.isEmpty = false)
    (h : w.Filled v heard chosen) {r : Nat} {rest : List Task}
    (htasks : v.tasks = .dispatch r :: rest) :
    let v' := { v with
      scheduler := (v.scheduler.perform (.dispatch r)).1
      tasks := (v.scheduler.perform (.dispatch r)).2 ++ rest }
    w.Filled v' (heard + (v.hears v').toList.length)
      (chosen ++ ((v.assigns v').toList.map Prod.snd)) := by
  have hsound := life.sound.roster
  obtain ⟨b, htop⟩ := Pool.exists_top (h.pool_isEmpty hpool)
  have hbest := best_of_top hsound life.pool_ordered htop
  have hleast := hbest.leastLoaded ((congrArg Settings.mode life.steady.1).trans hmode)
  have hnext := next_of_planned life.planned htasks
  dsimp only
  rw [hears_of_keeps (keeps_perform _ _)]
  obtain ⟨pool, -, hperm, ⟨-, heq⟩ | ⟨-, heq⟩⟩ := perform_dispatch_of_top hsound htop r
  · have hnone := hnext.assigns_none (t := ({ v.scheduler with pool }).refuse r) rfl
    rw [heq]
    dsimp only
    simp only [hnone, Option.toList_none, List.map_nil, List.append_nil]
    exact h.of_refuse htasks hperm
  · have hsome := hnext.assigns_some (b := b)
      (t := ({ v.scheduler with pool }).modifyBackend b Backend.begin) rfl
    rw [heq]
    dsimp only
    rw [hsome]
    exact h.of_assign hsound htasks hperm hbest.pooled hleast

/-- A task of no request. -/
theorem filled_quiet (life : Life settings permits (v :: past)) (h : w.Filled v heard chosen)
    {x : Task} {rest : List Task} (htasks : v.tasks = x :: rest) (hquiet : x.leavesDesk = true) :
    let v' := { v with
      scheduler := (v.scheduler.perform x).1, tasks := (v.scheduler.perform x).2 ++ rest }
    w.Filled v' (heard + (v.hears v').toList.length)
      (chosen ++ ((v.assigns v').toList.map Prod.snd)) := by
  obtain ⟨-, hafter⟩ := @desk_quiet v.scheduler [] x hquiet
  have hnothing : ∀ y : Task, y.leavesDesk = true → y.asked? = none := by
    intro y hy
    cases y <;> first | rfl | contradiction
  have hnone := life.assigns_of_perform htasks (by rintro r rfl; contradiction)
  refine h.of_idle hnone (hears_of_keeps (keeps_perform _ _))
    (roster_perform _ (by cases x <;> first | rfl | contradiction))
    (ongoing_perform _ (by cases x <;> first | rfl | contradiction))
    (congrArg Prod.fst (record_perform _ (by cases x <;> first | rfl | contradiction))) ?_ ?_
  · intro y hy
    obtain hy | hy := List.mem_append.1 hy
    · exact .inl (hafter y hy)
    · exact h.serving y (htasks ▸ List.mem_cons_of_mem _ hy)
  · have hnew : (v.scheduler.perform x).2.filterMap Task.asked? = [] :=
      List.filterMap_eq_nil_iff.2 fun y hy => hnothing y (hafter y hy)
    rw [htasks, List.filterMap_append, hnew, List.filterMap_cons, hnothing x hquiet]
    rfl

/-- Any task, as long as the scheduler hears nothing but requests. -/
theorem filled_perform (life : Life settings permits (v :: past)) (hmode : settings.mode = .leastLoaded)
    (hpool : w.scheduler.pool.isEmpty = false) (h : w.Filled v heard chosen) {x : Task}
    {rest : List Task} (htasks : v.tasks = x :: rest) :
    let v' := { v with
      scheduler := (v.scheduler.perform x).1, tasks := (v.scheduler.perform x).2 ++ rest }
    w.Filled v' (heard + (v.hears v').toList.length)
      (chosen ++ ((v.assigns v').toList.map Prod.snd)) := by
  obtain hquiet | hasked := h.serving x (htasks ▸ List.mem_cons_self)
  · exact life.filled_quiet h htasks hquiet
  cases x with
  | dispatch r => exact life.filled_dispatch hmode hpool h htasks
  | request r =>
      have hnone := life.assigns_of_perform htasks nofun
      have hears := @hears_of_keeps v { v with
        scheduler := (v.scheduler.perform (.request r)).1
        tasks := (v.scheduler.perform (.request r)).2 ++ rest } (keeps_perform _ _)
      have heq : v.scheduler.perform (.request r) = (v.scheduler, [.dispatch r]) := by
        simp only [perform, h.pool_isEmpty hpool]
        rfl
      dsimp only
      rw [heq] at hnone hears ⊢
      refine h.of_idle hnone hears rfl (fun _ => rfl) rfl ?_ ?_
      · intro y hy
        obtain rfl | hy := List.mem_cons.1 hy
        · exact .inr rfl
        · exact h.serving y (htasks ▸ List.mem_cons_of_mem _ hy)
      · rw [htasks]
        rfl
  | _ => contradiction

/-- **Any step**, as long as the scheduler hears nothing but requests. -/
theorem filled_step (life : Life settings permits (v :: past)) (hmode : settings.mode = .leastLoaded)
    (hpool : w.scheduler.pool.isEmpty = false) (h : w.Filled v heard chosen) (step : v.Step v')
    (honly : ∀ e ∈ v.hears v', ∃ r, e = .request r) :
    w.Filled v' (heard + (v.hears v').toList.length)
      (chosen ++ ((v.assigns v').toList.map Prod.snd)) := by
  cases step with
  | perform htasks => exact life.filled_perform hmode hpool h htasks
  | @receive e s tasks htasks hreceives hopens =>
      rw [life.assigns_of_rest (.receive htasks hreceives hopens) htasks, Option.toList_none,
        List.map_nil, List.append_nil]
      have hroster : s.roster = v.scheduler.roster := by cases hreceives <;> rfl
      have hloads : ∀ b, s.ongoing b = v.scheduler.ongoing b := by cases hreceives <;> exact fun _ => rfl
      have hdropped : s.dropped = v.scheduler.dropped := by cases hreceives <;> rfl
      obtain hears | ⟨hears, f, rfl⟩ := hears_of_receives hreceives (tasks ++ [.publish])
      · obtain ⟨r, rfl⟩ := honly e hears
        refine h.of_quiet hroster hloads hdropped (serving_of_opens hopens (.inl ⟨r, rfl⟩)) ?_
        rw [hears, htasks]
        cases hopens
        rfl
      · refine h.of_quiet hroster hloads hdropped (serving_of_opens hopens (.inr ⟨f, rfl⟩)) ?_
        rw [hears, htasks]
        cases hopens
        rfl
  | query htasks =>
      refine h.of_idle (life.assigns_of_rest (.query htasks) htasks)
        (hears_of_keeps (keeps_of_eq rfl rfl rfl rfl)) rfl (fun _ => rfl) rfl (fun x hx => ?_)
        (by rw [htasks]; rfl)
      rw [List.mem_singleton.1 hx]
      exact .inl rfl
  | @arrive r s hnew haccept =>
      obtain rfl := accept?_eq haccept
      exact h.of_idle (assigns_of_le rfl (Nat.le_refl _))
        (hears_of_keeps ⟨List.prefix_append _ _, List.prefix_rfl, List.prefix_rfl, List.prefix_rfl⟩)
        rfl (fun _ => rfl) rfl h.serving rfl
  | work hwork =>
      exact h.of_idle (assigns_of_le rfl hwork.forwards_le) (hears_of_keeps hwork.keeps)
        hwork.roster_eq hwork.ongoing_eq (congrArg Prod.fst (hwork.record_eq life.steady.2))
        h.serving rfl

/-- The signal to shut down. -/
theorem filled_signal (h : w.Filled v heard chosen) :
    w.Filled { v with scheduler := v.scheduler.signal }
      (heard + (v.hears { v with scheduler := v.scheduler.signal }).toList.length)
      (chosen ++ ((v.assigns { v with scheduler := v.scheduler.signal }).toList.map Prod.snd)) :=
  h.of_idle v.assigns_signal (hears_of_keeps (keeps_of_eq rfl rfl rfl rfl)) rfl (fun _ => rfl) rfl
    h.serving rfl

/-- A history without its latest part. -/
theorem before (life : Life settings permits (v :: (recent ++ w :: past))) :
    Life settings permits (w :: past) := by
  induction recent generalizing v with
  | nil => exact life.earlier
  | cons u recent ih => exact ih life.earlier

/-- **A whole stretch** in which the scheduler hears nothing but requests. -/
theorem filled (life : Life settings permits (v :: (recent ++ w :: past)))
    (hmode : settings.mode = .leastLoaded) (hrest : w.tasks = [])
    (hpool : w.scheduler.pool.isEmpty = false)
    (honly : ∀ e ∈ gather hears (v :: (recent ++ [w])), ∃ r, e = .request r) :
    w.Filled v (gather hears (v :: (recent ++ [w]))).length
      ((gather assigns (v :: (recent ++ [w]))).map Prod.snd) := by
  have hstep : ∀ {u u' : World} {rest before : List World}, Life settings permits (u' :: u :: before) →
      w.Filled u (gather hears (u :: rest)).length ((gather assigns (u :: rest)).map Prod.snd) →
      (∀ e ∈ u.hears u', ∃ r, e = .request r) →
      w.Filled u' (gather hears (u' :: u :: rest)).length
        ((gather assigns (u' :: u :: rest)).map Prod.snd) := by
    intro u u' rest before life h honly
    rw [gather_cons, gather_cons, List.length_append, List.map_append]
    cases life with
    | step life step => exact life.filled_step hmode hpool h step honly
    | signal => exact filled_signal h
  induction recent generalizing v with
  | nil =>
      refine hstep life (filled_refl hrest) fun e he => honly e ?_
      rw [List.nil_append, gather_cons]
      exact List.mem_append_right _ (Option.mem_toList.2 he)
  | cons u recent ih =>
      refine hstep life (ih (@before _ _ _ _ _ [] life) fun e he => honly e ?_) fun e he => honly e ?_
      · rw [List.cons_append, gather_cons]
        exact List.mem_append_left _ he
      · rw [List.cons_append, gather_cons]
        exact List.mem_append_right _ (Option.mem_toList.2 he)

/-- **Requests level the loads.**  In the least-loaded mode, let the scheduler hear nothing
but requests from one moment of rest to another, while the pool has instances.

* The pool has the same instances, and their loads have grown by what was dispatched to
  them.
* The spread of the loads is at most what it was, or one.
* If the loads were equal and no request was refused, each instance got its share of the
  requests, rounded down or up. -/
theorem levelled (life : Life settings permits (w' :: (recent ++ w :: past)))
    (hmode : settings.mode = .leastLoaded) (hrest : w.tasks = []) (hrest' : w'.tasks = [])
    (hpool : w.scheduler.pool.isEmpty = false)
    (honly : ∀ e ∈ gather hears (w' :: (recent ++ [w])), ∃ r, e = .request r) :
    let n := (gather hears (w' :: (recent ++ [w]))).length
    let k := w.scheduler.pool.size
    let share := fun b => ((gather assigns (w' :: (recent ++ [w]))).map Prod.snd).count b
    w'.scheduler.pool.items.Perm w.scheduler.pool.items ∧
    (∀ b, w'.scheduler.ongoing b = w.scheduler.ongoing b + share b) ∧
    w'.scheduler.spread ≤ max w.scheduler.spread 1 ∧
    (w.scheduler.spread = 0 → w'.scheduler.dropped = w.scheduler.dropped →
      ∀ b ∈ w.scheduler.pool.items, share b = n / k ∨ share b = (n + k - 1) / k) := by
  intro n k share
  have h := life.filled hmode hrest hpool honly
  refine ⟨h.pool, h.loads, h.spread, fun hlevel hdropped b hb => ?_⟩
  let members := w.scheduler.pool.items.toList.toFinset
  have hmem : ∀ c, c ∈ members ↔ c ∈ w.scheduler.pool.items := fun c => by
    rw [List.mem_toFinset, Array.mem_toList_iff]
  have hindexed : w.scheduler.pool.Indexed := life.before.sound.roster.indexed
  have hcard : members.card = k := List.toFinset_card_of_nodup hindexed.nodup
  have hsum : ∑ c ∈ members, share c = n := by
    have hcount := Multiset.sum_count_eq_card (s := members)
      (m := ((gather assigns (w' :: (recent ++ [w]))).map Prod.snd : List Nat))
      fun c hc => (hmem c).2 (h.members c hc)
    have haccount := h.account
    rw [hdropped, hrest'] at haccount
    simp only [Multiset.coe_card, Multiset.coe_count, List.filterMap_nil, List.length_nil]
      at hcount haccount
    change ∑ c ∈ members, share c = _ at hcount
    omega
  rw [← hcard]
  refine share_eq hsum (fun c hc d hd => ?_) ((hmem b).2 hb)
  have hbefore := (spread_le_iff _ 0).1 hlevel.le d ((hmem d).1 hd) c ((hmem c).1 hc)
  have hbefore' := (spread_le_iff _ 0).1 hlevel.le c ((hmem c).1 hc) d ((hmem d).1 hd)
  have hspread := h.spread
  rw [hlevel, Nat.max_eq_right (Nat.zero_le 1)] at hspread
  have hafter := (spread_le_iff _ 1).1 hspread c ((h.mem_pool c).2 ((hmem c).1 hc)) d
    ((h.mem_pool d).2 ((hmem d).1 hd))
  rw [h.loads, h.loads] at hafter
  change w.scheduler.ongoing c + share c ≤ w.scheduler.ongoing d + share d + 1 at hafter
  omega

/-- A history, cut at one of its moments. -/
theorem cut (life : Life settings permits (w :: past)) (m : Nat) (h : past.drop m ≠ []) :
    Life settings permits (w :: (past.take m ++ (past.drop m).head h :: (past.drop m).tail)) := by
  rw [List.cons_head_tail, List.take_append_drop]
  exact life

/-- Three requests for two instances without forwards: one of them gets two, and the other
one gets one. -/
theorem levelled_of_three :
    ∃ w' recent w past, Life ⟨.leastLoaded, false, 2, 8, 0, ⟨0, 0⟩, default⟩ 8
        (w' :: (recent ++ w :: past)) ∧
      gather hears (w' :: (recent ++ [w])) = [.request 0, .request 1, .request 2] ∧
      w'.scheduler.spread ≤ 1 ∧
      ∀ b ∈ w.scheduler.pool.items, w'.scheduler.ongoing b = w.scheduler.ongoing b + 1 ∨
        w'.scheduler.ongoing b = w.scheduler.ongoing b + 2 := by
  have begun := @Life.start ⟨.leastLoaded, false, 2, 8, 0, ⟨0, 0⟩, default⟩ 8
  -- a snapshot makes two instances, which have no slots and take requests at once
  have posted := begun.step (.work (.post (.ofHealthy ["a", "b"])))
  have ready := (posted.step
    (.receive rfl (.snapshot rfl) (.snapshot _ (by decide) .rfl .rfl (.inl rfl)))).settle 8
  -- three requests come and are dispatched
  have arrived := ((ready.step
    (@Step.arrive _ 0 _ (by decide +kernel) (if_neg (by decide +kernel)))).step
    (@Step.arrive _ 1 _ (by decide +kernel) (if_neg (by decide +kernel)))).step
    (@Step.arrive _ 2 _ (by decide +kernel) (if_neg (by decide +kernel)))
  have first := (arrived.step (.receive (by decide +kernel)
    (@Receives.request _ 0 [1, 2] (by decide +kernel)) (.request 0))).settle 8
  have second := (first.step (.receive (by decide +kernel)
    (@Receives.request _ 1 [2] (by decide +kernel)) (.request 1))).settle 8
  have third := (second.step (.receive (by decide +kernel)
    (@Receives.request _ 2 [] (by decide +kernel)) (.request 2))).settle 8
  obtain ⟨w', recent, w, past, life, hrest, hrest', hpool, hlevel, hdropped, hsize, hears⟩ :
      ∃ w' recent w past, Life ⟨.leastLoaded, false, 2, 8, 0, ⟨0, 0⟩, default⟩ 8
          (w' :: (recent ++ w :: past)) ∧ w.tasks = [] ∧ w'.tasks = [] ∧
        w.scheduler.pool.isEmpty = false ∧ w.scheduler.spread = 0 ∧
        w'.scheduler.dropped = w.scheduler.dropped ∧ w.scheduler.pool.size = 2 ∧
        gather hears (w' :: (recent ++ [w])) = [.request 0, .request 1, .request 2] :=
    ⟨_, _, _, _, third.cut 20 (by decide +kernel), by decide +kernel, by decide +kernel,
      by decide +kernel, by decide +kernel, by decide +kernel, by decide +kernel,
      by decide +kernel⟩
  obtain ⟨-, hloads, hspread, hshare⟩ := levelled life rfl hrest hrest' hpool (by
    rw [hears]
    simp)
  rw [hlevel] at hspread
  refine ⟨w', recent, w, past, life, hears, hspread, fun b hb => ?_⟩
  have hb := hshare hlevel hdropped b hb
  rw [hears, hsize] at hb
  rw [hloads]
  exact hb.imp (congrArg _) (congrArg _)

end Life

end StreamBalancer
