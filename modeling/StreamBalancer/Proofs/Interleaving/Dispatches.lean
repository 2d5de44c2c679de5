import StreamBalancer.Proofs.Interleaving.Eligible
import StreamBalancer.Proofs.Interleaving.Load

/-!
# StreamBalancer.Proofs.Interleaving.Dispatches

Which steps are dispatches, and how they are counted.

1. Only the task that chooses an instance dispatches a request
   (`Life.perform_dispatch_assigns`); no other task does (`Life.assigns_of_perform`),
   nobody does at rest (`Life.assigns_of_rest`), and no helper does (`assigns_of_le`).
2. The check that follows counts the dispatch.  So an instance has counted the requests
   that were dispatched to it, but for one that is yet to be checked (`Life.counted`).
-/

namespace StreamBalancer

namespace Scheduler

variable {s t : Scheduler}

/-- Helpers start no forward. -/
theorem Work.forwards_le (h : s.Work t) : t.forwards.length ≤ s.forwards.length := by
  cases h with
  | post | dialed | undialed | retune | tick => exact Nat.le_refl _
  | session h =>
      obtain ⟨x, -, hmoves⟩ := stepSession?_cases h
      cases hmoves with
      | hands =>
          unfold handOver
          split <;> exact Nat.le_refl _
      | ends | goes => exact Nat.le_refl _
  | spliced moved h =>
      obtain ⟨g, outcome, heq, -⟩ := endSplice_eq h moved
      rw [heq]
      exact Nat.le_of_eq (List.length_map _)
  | forward reach h =>
      obtain ⟨f, -, hmoves⟩ := stepForward?_cases h
      cases hmoves with
      | advances | releases => exact Nat.le_of_eq (List.length_map _)
      | reports =>
          rw [report_keeps Scheduler.forwards fun _ _ _ _ => rfl]
          exact List.length_filter_le _ _

/-- Only a dispatch leads to a check. -/
theorem isCheck_perform (s : Scheduler) {x : Task} (hx : ∀ r, x ≠ .dispatch r) :
    ∀ y ∈ (s.perform x).2, y.isCheck = false := by
  intro y hy
  cases x with
  | dispatch r => exact absurd rfl (hx r)
  | inspect b slot =>
      obtain ⟨t, -, rfl⟩ := Option.map_eq_some_iff.1 (Option.mem_toList.1 hy)
      rfl
  | finished f =>
      obtain ⟨b, outcome⟩ := f
      cases outcome with
      | completed | failed => contradiction
      | dialFailed r =>
          rw [List.mem_singleton.1 hy]
          rfl
  | _ => grind [perform, Task.isCheck]

theorem count_check_eq_zero {tasks : List Task} (h : ∀ x ∈ tasks, x.isCheck = false) (b : Nat) :
    tasks.count (.check b) = 0 := by
  refine List.count_eq_zero_of_not_mem fun hmem => ?_
  have hcheck := h _ hmem
  contradiction

end Scheduler

namespace World

open Scheduler

variable {w w' : World} {past : List World}

theorem assigns_of_le (htasks : w'.tasks = w.tasks)
    (h : w'.scheduler.forwards.length ≤ w.scheduler.forwards.length) : w.assigns w' = none := by
  rw [assigns, gained?, if_neg]
  simp only [World.books, Scheduler.books, routes, htasks, List.length_append, List.length_map]
  omega

/-- No request is dispatched by the signal to shut down. -/
theorem assigns_signal (w : World) : w.assigns { w with scheduler := w.scheduler.signal } = none := by
  rw [assigns, books_signal, gained?_self]

namespace Next

variable {r b : Nat} {rest : List Task} {t : Scheduler}

theorem assigns_none (h : w.Next (.dispatch r) rest) (hroutes : t.routes = w.scheduler.routes) :
    w.assigns { w with scheduler := t, tasks := [] ++ rest } = none := by
  rw [assigns, h.books_eq]
  simp [World.books, Scheduler.books, Task.started?, h.started rfl, hroutes]

theorem assigns_some (h : w.Next (.dispatch r) rest) (hroutes : t.routes = w.scheduler.routes) :
    w.assigns { w with scheduler := t, tasks := [.check b, .start r b] ++ rest } = some (r, b) := by
  rw [assigns, h.books_eq]
  simp [World.books, Scheduler.books, List.filterMap_cons, Task.started?, h.started rfl, hroutes]

end Next

/-- The requests that were dispatched to an instance, the first one first. -/
def sentTo (b : Nat) (h : List World) : List Nat :=
  ((gather assigns h).filter fun x => x.2 = b).map Prod.fst

theorem sentTo_of_none (h : w.assigns w' = none) (b : Nat) :
    sentTo b (w' :: w :: past) = sentTo b (w :: past) := by
  rw [sentTo, gather_cons, h, Option.toList_none, List.append_nil, sentTo]

theorem sentTo_of_some {r c : Nat} (h : w.assigns w' = some (r, c)) (b : Nat) :
    sentTo b (w' :: w :: past) = sentTo b (w :: past) ++ if c = b then [r] else [] := by
  rw [sentTo, gather_cons, h, Option.toList_some, List.filter_append, List.map_append, sentTo]
  by_cases hcb : c = b <;> simp [hcb]

/-- A request that was dispatched to an instance was so before, or is now. -/
theorem getElem?_sentTo {b n r : Nat} (h : (sentTo b (w' :: w :: past))[n]? = some r) :
    (n < (sentTo b (w :: past)).length ∧ (sentTo b (w :: past))[n]? = some r) ∨
      (n = (sentTo b (w :: past)).length ∧ w.assigns w' = some (r, b)) := by
  obtain hold | hnew := Nat.lt_or_ge n (sentTo b (w :: past)).length
  · left
    refine ⟨hold, ?_⟩
    cases hassigns : w.assigns w' with
    | none => rwa [sentTo_of_none hassigns] at h
    | some x => rwa [sentTo_of_some hassigns, List.getElem?_append_left hold] at h
  · right
    cases hassigns : w.assigns w' with
    | none =>
        rw [sentTo_of_none hassigns, List.getElem?_eq_none hnew] at h
        contradiction
    | some x =>
        obtain ⟨q, c⟩ := x
        rw [sentTo_of_some hassigns, List.getElem?_append_right hnew] at h
        by_cases hcb : c = b
        · subst hcb
          rw [if_pos rfl, List.getElem?_singleton] at h
          split at h
          · next hzero =>
            obtain rfl := Option.some.inj h
            exact ⟨by omega, rfl⟩
          · contradiction
        · rw [if_neg hcb] at h
          contradiction

/-- An instance has counted so many of the requests that were dispatched to it, and one
more if that is about to be checked. -/
structure Counted (w : World) (past : List World) (b count : Nat) : Prop where
  sent : (sentTo b (w :: past)).length = count + w.tasks.count (.check b)
  counted : w.scheduler.counted b = UInt64.ofNat count
  /-- The check is next or not to be done at all. -/
  next : ∀ x ∈ w.tasks.tail, x.isCheck = false

/-- Whoever dispatches nothing, counts nothing and has nothing to check keeps the count. -/
theorem Counted.of_none {b count : Nat} (h : w.Counted past b count) (hassigns : w.assigns w' = none)
    (hcounted : w'.scheduler.counted b = w.scheduler.counted b)
    (htasks : w'.tasks.count (.check b) = w.tasks.count (.check b))
    (hnext : ∀ x ∈ w'.tasks.tail, x.isCheck = false) : w'.Counted (w :: past) b count where
  sent := by rw [sentTo_of_none hassigns, h.sent, htasks]
  counted := hcounted.trans h.counted
  next := hnext

end World

namespace Life

open Scheduler World

variable {settings : Settings} {permits : Nat} {w w' : World} {past : List World}

/-- At rest no request is dispatched. -/
theorem assigns_of_rest (life : Life settings permits (w :: past)) (step : w.Step w')
    (hrest : w.tasks = []) : w.assigns w' = none := by
  rw [Option.eq_none_iff_forall_ne_some]
  rintro ⟨r, b⟩ hassigns
  obtain ⟨-, rest, htasks⟩ := (life.moves step).dispatch_of_assigns hassigns
  rw [hrest] at htasks
  contradiction

/-- A task that does not choose an instance dispatches nothing. -/
theorem assigns_of_perform (life : Life settings permits (w :: past)) {x : Task} {rest : List Task}
    (htasks : w.tasks = x :: rest) (hx : ∀ r, x ≠ .dispatch r) :
    w.assigns { w with
      scheduler := (w.scheduler.perform x).1, tasks := (w.scheduler.perform x).2 ++ rest } = none := by
  rw [Option.eq_none_iff_forall_ne_some]
  rintro ⟨r, b⟩ hassigns
  obtain ⟨-, others, hdispatch⟩ := (life.moves (.perform htasks)).dispatch_of_assigns hassigns
  rw [htasks] at hdispatch
  exact hx r (List.cons.inj hdispatch).1

/-- The task that chooses an instance refuses the request, or dispatches it and leads to a
check. -/
theorem perform_dispatch_assigns (life : Life settings permits (w :: past)) {r : Nat}
    {rest : List Task} (htasks : w.tasks = .dispatch r :: rest) :
    ((w.scheduler.perform (.dispatch r)).2 = [] ∧
      w.assigns { w with
        scheduler := (w.scheduler.perform (.dispatch r)).1
        tasks := (w.scheduler.perform (.dispatch r)).2 ++ rest } = none) ∨
    ∃ b, (w.scheduler.perform (.dispatch r)).2 = [.check b, .start r b] ∧
      w.assigns { w with
        scheduler := (w.scheduler.perform (.dispatch r)).1
        tasks := (w.scheduler.perform (.dispatch r)).2 ++ rest } = some (r, b) := by
  have hpool := life.pool_of_dispatch (htasks ▸ List.mem_cons_self)
  have hnext := next_of_planned life.planned htasks
  obtain ⟨b, pool, -, -, -, ⟨-, heq⟩ | ⟨-, heq⟩⟩ :=
    perform_dispatch_of_pool life.sound.roster hpool r
  · rw [heq]
    exact .inl ⟨rfl, hnext.assigns_none rfl⟩
  · rw [heq]
    exact .inr ⟨b, rfl, hnext.assigns_some rfl⟩

/-- Whoever dispatches a request is about to start its forward. -/
theorem start_of_assigns (life : Life settings permits (w :: past)) (step : w.Step w') {r b : Nat}
    (h : w.assigns w' = some (r, b)) : .start r b ∈ w'.tasks := by
  obtain ⟨-, rest, htasks⟩ := (life.moves step).dispatch_of_assigns h
  cases step with
  | perform hnext =>
      obtain ⟨rfl, rfl⟩ := List.cons.inj (hnext.symm.trans htasks)
      obtain ⟨-, hnone⟩ | ⟨c, hnew, hsome⟩ := life.perform_dispatch_assigns hnext
      · rw [hnone] at h
        contradiction
      · obtain ⟨-, rfl⟩ := Prod.mk.inj (Option.some.inj (hsome.symm.trans h))
        dsimp only
        rw [hnew]
        exact List.mem_cons_of_mem _ List.mem_cons_self
  | receive hrest | query hrest =>
      rw [hrest] at htasks
      contradiction
  | arrive _ haccept =>
      obtain rfl := accept?_eq haccept
      have hnone := h.symm.trans (assigns_of_le rfl (Nat.le_refl _))
      contradiction
  | work hwork =>
      have hnone := h.symm.trans (assigns_of_le rfl hwork.forwards_le)
      contradiction

/-- A request that is dispatched is yet to be counted. -/
theorem counted_dispatch (life : Life settings permits (w :: past)) {r : Nat} {rest : List Task}
    (htasks : w.tasks = .dispatch r :: rest) {b count : Nat} (h : w.Counted past b count) :
    World.Counted { w with
      scheduler := (w.scheduler.perform (.dispatch r)).1
      tasks := (w.scheduler.perform (.dispatch r)).2 ++ rest } (w :: past) b count := by
  have hrest : ∀ y ∈ rest, y.isCheck = false := fun y hy => h.next y (htasks ▸ hy)
  have hnone : rest.count (.check b) = 0 := count_check_eq_zero hrest b
  have hsent : (sentTo b (w :: past)).length = count := by simpa [htasks, hnone] using h.sent
  have hcounted := (@Scheduler.counted_perform w.scheduler (.dispatch r) rfl b).trans h.counted
  obtain ⟨hnew, hassigns⟩ | ⟨c, hnew, hassigns⟩ := life.perform_dispatch_assigns htasks
  · refine ⟨?_, hcounted, ?_⟩
    · rw [sentTo_of_none hassigns, hsent, hnew]
      simp [hnone]
    · rw [hnew]
      exact fun y hy => hrest y (List.mem_of_mem_tail hy)
  · refine ⟨?_, hcounted, ?_⟩
    · rw [sentTo_of_some hassigns, List.length_append, hsent, hnew]
      by_cases hcb : c = b <;> simp [hcb, hnone]
    · rw [hnew]
      intro y hy
      obtain rfl | hy := List.mem_cons.1 hy
      · rfl
      · exact hrest y hy

/-- A task counts nothing, or is the check of a dispatch. -/
theorem counted_perform (life : Life settings permits (w :: past)) {x : Task} {rest : List Task}
    (htasks : w.tasks = x :: rest) {b count : Nat} (h : w.Counted past b count) :
    World.Counted { w with
      scheduler := (w.scheduler.perform x).1, tasks := (w.scheduler.perform x).2 ++ rest }
      (w :: past) b count ∨
    x = .check b ∧ World.Counted { w with
      scheduler := (w.scheduler.perform x).1, tasks := (w.scheduler.perform x).2 ++ rest }
      (w :: past) b (count + 1) := by
  by_cases hx : ∃ r, x = .dispatch r
  · obtain ⟨r, rfl⟩ := hx
    exact .inl (life.counted_dispatch htasks h)
  have hother : ∀ r, x ≠ .dispatch r := fun r hr => hx ⟨r, hr⟩
  have hrest : ∀ y ∈ rest, y.isCheck = false := fun y hy => h.next y (htasks ▸ hy)
  have hnew : ∀ y ∈ (w.scheduler.perform x).2 ++ rest, y.isCheck = false := by
    intro y hy
    obtain hy | hy := List.mem_append.1 hy
    · exact isCheck_perform w.scheduler hother y hy
    · exact hrest y hy
  have hsent := h.sent
  rw [htasks, List.count_cons, count_check_eq_zero hrest b, Nat.zero_add] at hsent
  have hlength : (sentTo b (_ :: w :: past)).length = _ :=
    congrArg List.length (sentTo_of_none (life.assigns_of_perform htasks hother) b)
  have htail := fun y hy => hnew y (List.mem_of_mem_tail hy)
  by_cases hcheck : x = .check b
  · subst hcheck
    have hlive := life.sound.live _ (htasks ▸ List.mem_cons_self) b rfl
    refine .inr ⟨rfl, ?_, ?_, htail⟩
    · rw [hlength, hsent, count_check_eq_zero hnew b]
      simp
    · rw [counted_check w.scheduler hlive b, if_pos rfl, h.counted, UInt64.ofNat_add]
      rfl
  · refine .inl ⟨?_, ?_, htail⟩
    · rw [hlength, hsent, count_check_eq_zero hnew b]
      simp [hcheck]
    · cases x with
      | check c =>
          have hlive := life.sound.live _ (htasks ▸ List.mem_cons_self) c rfl
          have hcb : b ≠ c := fun hcb => hcheck (hcb ▸ rfl)
          rw [counted_check w.scheduler hlive b, if_neg hcb, h.counted]
      | _ => exact (Scheduler.counted_perform w.scheduler rfl b).trans h.counted

/-- A step counts nothing, or is the check of a dispatch and leaves the forwards alone. -/
theorem counted_step (life : Life settings permits (w :: past)) (step : w.Step w') {b count : Nat}
    (h : w.Counted past b count) :
    ∃ count', w'.Counted (w :: past) b count' ∧
      (count' = count ∨ count' = count + 1 ∧ .check b ∈ w.tasks ∧
        w'.scheduler.forwards = w.scheduler.forwards) := by
  cases step with
  | @perform x rest htasks =>
      obtain hsame | ⟨rfl, hmore⟩ := life.counted_perform htasks h
      · exact ⟨count, hsame, .inl rfl⟩
      · have hrequests := (@requests_perform w.scheduler (.check b) rfl).1
        simp only [requests, Prod.mk.injEq] at hrequests
        exact ⟨count + 1, hmore, .inr ⟨rfl, htasks ▸ List.mem_cons_self, hrequests.2.2.1⟩⟩
  | @receive e s tasks htasks hreceives hopens =>
      have hassigns := life.assigns_of_rest (.receive htasks hreceives hopens) htasks
      have hnone : ∀ x ∈ tasks ++ [Task.publish], x.isCheck = false := by
        intro x hx
        cases hopens with
        | snapshot =>
            obtain ⟨a, rfl⟩ | ⟨a, rfl⟩ | ⟨a, -, rfl⟩ | rfl | rfl := World.Sound.mem_sweep hx <;> rfl
        | request | finished | failure | handover | ignored =>
            simp only [List.mem_append, List.mem_singleton, List.not_mem_nil, false_or] at hx
            grind [Task.isCheck]
      refine ⟨count, h.of_none hassigns (by cases hreceives <;> rfl) ?_
        fun x hx => hnone x (List.mem_of_mem_tail hx), .inl rfl⟩
      rw [htasks]
      exact count_check_eq_zero hnone b
  | query htasks =>
      refine ⟨count, h.of_none (life.assigns_of_rest (.query htasks) htasks) rfl ?_
        fun x hx => absurd hx List.not_mem_nil, .inl rfl⟩
      rw [htasks]
      rfl
  | arrive _ haccept =>
      obtain rfl := accept?_eq haccept
      exact ⟨count, h.of_none (assigns_of_le rfl (Nat.le_refl _)) rfl rfl h.next, .inl rfl⟩
  | work hwork =>
      exact ⟨count, h.of_none (assigns_of_le rfl hwork.forwards_le) (hwork.counted_eq b) rfl h.next,
        .inl rfl⟩

/-- The signal to shut down counts nothing. -/
theorem counted_signal {b count : Nat} (h : w.Counted past b count) :
    World.Counted { w with scheduler := w.scheduler.signal } (w :: past) b count :=
  h.of_none w.assigns_signal rfl rfl h.next

/-- **An instance has counted the requests that were dispatched to it**, but for one that
is yet to be checked. -/
theorem counted (life : Life settings permits (w :: past)) (b : Nat) :
    ∃ count, w.Counted past b count := by
  induction life using Life.induct with
  | initial => exact ⟨0, rfl, rfl, fun _ h => absurd h List.not_mem_nil⟩
  | signalled _ ih =>
      obtain ⟨count, h⟩ := ih
      exact ⟨count, counted_signal h⟩
  | kept life step ih =>
      obtain ⟨count, h⟩ := ih
      obtain ⟨count', h', -⟩ := life.counted_step step h
      exact ⟨count', h'⟩

end Life

end StreamBalancer
