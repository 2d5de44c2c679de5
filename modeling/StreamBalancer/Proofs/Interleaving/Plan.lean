import StreamBalancer.Proofs.Interleaving.Life

/-!
# StreamBalancer.Proofs.Interleaving.Plan

What may be left to do of a message, whatever the moment (`Life.planned`).

1. A request comes first in a plan or not at all, so the scheduler has at most one in
   its hands, and a report comes first likewise.
2. After a request, a report, a first tunnel or the last of the waiting requests
   nothing is left but to set the gauges.  After a dispatch the waiting requests may
   be left besides.
3. Instances are put into the pool only while the waiting requests are yet to be gone
   through (`Life.drain_mem`).
-/

namespace StreamBalancer

namespace Scheduler

namespace Task

/-- Whether a task comes first in a plan or not at all. -/
def isHead : Task → Bool
  | request _ | dispatch _ | finished _ => true
  | _ => false

/-- Whether a task is part of an inspection of tunnels. -/
def isInspection : Task → Bool
  | check _ | inspect _ _ | weigh _ _ _ => true
  | _ => false

/-- Whether a task is the start of a forward. -/
def isStart : Task → Bool
  | start _ _ => true
  | _ => false

/-- Whether a task is part of a dispatch. -/
def isDispatching : Task → Bool
  | dispatch _ | check _ | inspect _ _ | weigh _ _ _ | start _ _ => true
  | _ => false

/-- Whether after a task only the gauges are left to be set. -/
def isLast : Task → Bool
  | request _ | finished _ | failure _ | handover _ | connected _ | drain => true
  | _ => false

/-- Whether a task may put an instance into the pool that was not in it before the
message. -/
def isFilling : Task → Bool
  | revive _ | arrive _ => true
  | _ => false

/-- Whether a task is one of many that may stand anywhere in a plan. -/
def isLoose : Task → Bool
  | remove _ | empty _ _ | close _ | mark _ _ | revive _ | arrive _ => true
  | _ => false

/-- A task may be left to do when another one is next. -/
structure Then (x y : Task) : Prop where
  head : y.isHead = false
  start : y.isStart = true → x.isInspection = true
  dispatching : x.isDispatching = true → y.isDispatching = true ∨ y = .drain ∨ y = .publish
  last : x.isLast = true → y = .publish
  unpublished : x ≠ .publish

/-- The gauges may be left to be set after anything else. -/
theorem then_publish {x : Task} (hx : x ≠ .publish) : Then x .publish where
  head := rfl
  start h := by contradiction
  dispatching _ := .inr (.inr rfl)
  last _ := rfl
  unpublished := hx

/-- After a loose task anything may be left that need not come first. -/
theorem then_of_loose {x y : Task} (hx : x.isLoose = true) (hhead : y.isHead = false)
    (hstart : y.isStart = false) : Then x y where
  head := hhead
  start h := by
    rw [hstart] at h
    contradiction
  dispatching h := by cases x <;> contradiction
  last h := by cases x <;> contradiction
  unpublished := by
    rintro rfl
    contradiction

/-- After an inspection the same may be left to do as after another one. -/
theorem Then.of_inspection {x y z : Task} (h : Then x z) (hx : x.isInspection = true)
    (hy : y.isInspection = true) : Then y z where
  head := h.head
  start _ := hy
  dispatching _ := by
    apply h.dispatching
    cases x <;> first | rfl | contradiction
  last hlast := by cases y <;> contradiction
  unpublished := by
    rintro rfl
    contradiction

/-- Inspections may be made one after the other. -/
theorem pairwise_inspections {tasks : List Task} (h : ∀ x ∈ tasks, x.isInspection = true) :
    tasks.Pairwise Then := by
  refine List.Pairwise.imp_of_mem (R := fun _ _ => True) ?_
    (List.pairwise_of_forall fun _ _ => trivial)
  intro x y hx hy _
  have hxi := h x hx
  have hyi := h y hy
  refine ⟨?_, fun _ => hxi, fun _ => .inl ?_, fun hlast => ?_, ?_⟩
  · cases y <;> first | rfl | contradiction
  · cases y <;> first | rfl | contradiction
  · cases x <;> contradiction
  · rintro rfl
    contradiction

end Task

/-- Plans of loose tasks go on with anything that need not come first. -/
theorem Task.pairwise_loose {tasks rest : List Task} (h : ∀ x ∈ tasks, x.isLoose = true)
    (hrest : rest.Pairwise Then) (hhead : ∀ y ∈ rest, y.isHead = false ∧ y.isStart = false) :
    (tasks ++ rest).Pairwise Then := by
  refine List.pairwise_append.2 ⟨?_, hrest, fun x hx y hy => ?_⟩
  · refine List.Pairwise.imp_of_mem (R := fun _ _ => True) ?_
      (List.pairwise_of_forall fun _ _ => trivial)
    intro x y hx hy _
    have hloose := h y hy
    apply then_of_loose (h x hx)
    · cases y <;> first | rfl | contradiction
    · cases y <;> first | rfl | contradiction
  · exact then_of_loose (h x hx) (hhead y hy).1 (hhead y hy).2

/-- Plans at whose end only the gauges are left to be set. -/
theorem Task.pairwise_publish {tasks rest : List Task} (h : tasks.Pairwise Then)
    (hunpublished : ∀ x ∈ tasks, x ≠ .publish) (hrest : rest.Pairwise Then)
    (hlast : ∀ y ∈ rest, y = .publish) : (tasks ++ rest).Pairwise Then := by
  refine List.pairwise_append.2 ⟨h, hrest, fun x hx y hy => ?_⟩
  rw [hlast y hy]
  exact Task.then_publish (hunpublished x hx)

/-- **A task leads to tasks that fit the rest of the plan.** -/
theorem planned_perform (s : Scheduler) {x : Task} {rest : List Task}
    (h : (x :: rest).Pairwise Task.Then) : ((s.perform x).2 ++ rest).Pairwise Task.Then := by
  obtain ⟨hthen, hrest⟩ := List.pairwise_cons.1 h
  -- nothing but the gauges is left after the task
  have hlast : ∀ {tasks : List Task}, x.isLast = true → tasks.Pairwise Task.Then →
      (∀ y ∈ tasks, y ≠ .publish) → (tasks ++ rest).Pairwise Task.Then :=
    fun hx htasks hunpublished =>
      Task.pairwise_publish htasks hunpublished hrest fun y hy => (hthen y hy).last hx
  have hinspection : ∀ {tasks : List Task}, x.isInspection = true →
      (∀ y ∈ tasks, y.isInspection = true) → (tasks ++ rest).Pairwise Task.Then := by
    intro tasks hx htasks
    refine List.pairwise_append.2 ⟨Task.pairwise_inspections htasks, hrest, fun y hy z hz => ?_⟩
    exact (hthen z hz).of_inspection hx (htasks y hy)
  have hhead : x.isInspection = false → ∀ y ∈ rest, y.isHead = false ∧ y.isStart = false := by
    intro hx y hy
    refine ⟨(hthen y hy).head, ?_⟩
    rw [← Bool.not_eq_true]
    intro hstart
    rw [(hthen y hy).start hstart] at hx
    contradiction
  have hsingle : ∀ y : Task, [y].Pairwise Task.Then := List.pairwise_singleton _
  cases x with
  | start | close | revive | arrive | publish => exact hrest
  | request r =>
      simp only [perform]
      split
      · exact hrest
      · exact hlast rfl (hsingle _) (by simp)
  | dispatch r =>
      simp only [perform]
      split
      · exact hrest
      · next b _ _ =>
        split
        · exact hrest
        · have hstart : ∀ y ∈ rest, Task.Then (.start r b) y := fun y hy =>
            ⟨(hthen y hy).head, fun h => absurd ((hthen y hy).start h) Bool.false_ne_true,
              fun _ => (hthen y hy).dispatching rfl, fun h => by contradiction, by simp⟩
          have hcheck : ∀ y ∈ rest, Task.Then (.check b) y := fun y hy =>
            ⟨(hthen y hy).head, fun _ => rfl, fun _ => (hthen y hy).dispatching rfl,
              fun h => by contradiction, by simp⟩
          have hboth : Task.Then (.check b) (.start r b) :=
            ⟨rfl, fun _ => rfl, fun _ => .inl rfl, fun h => by contradiction, by simp⟩
          refine List.pairwise_cons.2 ⟨fun y hy => ?_, List.pairwise_cons.2 ⟨hstart, hrest⟩⟩
          obtain rfl | hy := List.mem_cons.1 hy
          · exact hboth
          · exact hcheck y hy
  | check b =>
      simp only [perform]
      split
      · exact hrest
      · split
        · refine hinspection rfl fun y hy => ?_
          obtain ⟨slot, -, rfl⟩ := List.mem_map.1 hy
          rfl
        · exact hrest
  | inspect b slot =>
      refine hinspection rfl fun y hy => ?_
      obtain ⟨t, -, rfl⟩ := Option.map_eq_some_iff.1 (Option.mem_toList.1 hy)
      rfl
  | weigh b slot t =>
      simp only [perform]
      split
      · split <;> exact hrest
      · exact hrest
  | finished f =>
      obtain ⟨b, outcome⟩ := f
      cases outcome with
      | completed | failed => exact hrest
      | dialFailed r => exact hlast rfl (hsingle (.request r)) (by simp [perform])
  | remove a =>
      simp only [perform]
      split
      · exact hrest
      · refine Task.pairwise_loose (fun y hy => ?_) hrest (hhead rfl)
        obtain ⟨slot, -, rfl⟩ := List.mem_map.1 hy
        rfl
  | empty b slot =>
      simp only [perform]
      split
      · exact Task.pairwise_loose (by simp [Task.isLoose]) hrest (hhead rfl)
      · exact hrest
  | drain =>
      simp only [perform]
      split
      · exact hrest
      · next r _ _ =>
        split
        · exact hrest
        · have hdrain : Task.Then (.dispatch r) .drain :=
            ⟨rfl, fun h => by contradiction, fun _ => .inr (.inl rfl), fun h => by contradiction,
              by simp⟩
          exact hlast rfl (List.pairwise_pair.2 hdrain) (by simp)
  | failure f =>
      simp only [perform]
      split
      · exact hrest
      · exact hlast rfl (hsingle _) (by simp)
  | mark b slot =>
      simp only [perform]
      split <;> exact hrest
  | handover v =>
      simp only [perform]
      split
      · exact hlast rfl (hsingle _) (by simp)
      · split
        · next x _ =>
          refine hlast rfl (Task.pairwise_loose (fun y hy => ?_) (hsingle _) ?_) ?_
          · obtain ⟨t, -, rfl⟩ := List.mem_map.1 hy
            rfl
          · simp [Task.isHead, Task.isStart]
          · rintro y hy rfl
            simp at hy
        · have hclose : ∀ y ∈ [Task.close v.tunnel], y.isLoose = true := by simp [Task.isLoose]
          exact hlast rfl (Task.pairwise_loose hclose (hsingle (.connected v.backend))
            (by simp [Task.isHead, Task.isStart])) (by simp)
  | connected b =>
      simp only [perform]
      split
      · exact hlast rfl (hsingle _) (by simp)
      · exact hrest

/-- The tasks with which a message opens make a plan. -/
theorem planned_opens {s : Scheduler} {e : Event} {tasks : List Task} (h : s.Opens e tasks) :
    (tasks ++ [Task.publish]).Pairwise Task.Then := by
  have hsingle : ∀ x : Task, x ≠ .publish → [x, .publish].Pairwise Task.Then := fun x hx =>
    List.pairwise_pair.2 (Task.then_publish hx)
  cases h with
  | request | finished | failure | handover => exact hsingle _ (by simp)
  | ignored => exact List.pairwise_singleton _ _
  | @snapshot x removals revivals arrivals =>
      have hend : [Task.drain, Task.publish].Pairwise Task.Then := hsingle _ (by simp)
      have hsweep : sweep removals revivals arrivals ++ [Task.publish] =
          (removals.map .remove ++ (revivals.map .revive ++ arrivals.map .arrive)) ++
            [.drain, .publish] := by
        simp [sweep]
      rw [hsweep]
      refine Task.pairwise_loose (fun y hy => ?_) hend (by simp [Task.isHead, Task.isStart])
      simp only [List.mem_append, List.mem_map] at hy
      obtain ⟨a, -, rfl⟩ | ⟨a, -, rfl⟩ | ⟨a, -, rfl⟩ := hy <;> rfl

/-- No task leads to one that fills the pool. -/
theorem isFilling_perform (s : Scheduler) (x : Task) :
    ∀ y ∈ (s.perform x).2, y.isFilling = false := by
  intro y hy
  cases x with
  | inspect b slot =>
      obtain ⟨t, -, rfl⟩ := Option.map_eq_some_iff.1 (Option.mem_toList.1 hy)
      rfl
  | _ => grind [perform, Task.isFilling]

/-- A task leads to a dispatch only if the pool has instances. -/
theorem dispatch_perform {s : Scheduler} {x : Task} {r : Nat} (h : .dispatch r ∈ (s.perform x).2) :
    s.pool.isEmpty = false ∧ (s.perform x).1.pool = s.pool := by
  cases x with
  | inspect b slot =>
      obtain ⟨t, -, heq⟩ := Option.map_eq_some_iff.1 (Option.mem_toList.1 h)
      contradiction
  | _ => grind [perform]

end Scheduler

namespace Life

open Scheduler

variable {settings : Settings} {permits : Nat} {w : World} {past : List World}

/-- **What is left to do of a message is a plan.** -/
theorem planned (life : Life settings permits (w :: past)) : w.tasks.Pairwise Task.Then := by
  induction life using Life.induct with
  | initial => exact .nil
  | signalled _ ih => exact ih
  | kept _ step ih =>
      cases step with
      | perform htasks => exact planned_perform _ (htasks ▸ ih)
      | receive _ _ hopens => exact planned_opens hopens
      | query => exact List.pairwise_singleton _ _
      | arrive | work => exact ih

/-- As long as instances are to be put into the pool, the waiting requests are yet to be
gone through. -/
theorem drain_mem (life : Life settings permits (w :: past)) {x : Task} (hx : x ∈ w.tasks)
    (hfilling : x.isFilling = true) : .drain ∈ w.tasks := by
  induction life using Life.induct with
  | initial => contradiction
  | signalled _ ih => exact ih hx
  | @kept w _ _ life step ih =>
      cases step with
      | @perform task rest htasks =>
          obtain hnew | hrest := List.mem_append.1 hx
          · rw [isFilling_perform _ _ x hnew] at hfilling
            contradiction
          · have hmem := ih (htasks ▸ List.mem_cons_of_mem task hrest)
            rw [htasks] at hmem
            obtain rfl | hmem := List.mem_cons.1 hmem
            · have hplan := life.planned
              rw [htasks, List.pairwise_cons] at hplan
              rw [(hplan.1 x hrest).last rfl] at hfilling
              contradiction
            · exact List.mem_append_right _ hmem
      | receive _ _ hopens =>
          cases hopens with
          | snapshot => simp [sweep]
          | request | finished | failure | handover | ignored =>
              simp only [List.mem_append, List.mem_singleton, List.not_mem_nil, false_or] at hx
              grind [Task.isFilling]
      | query =>
          rw [List.mem_singleton.1 hx] at hfilling
          contradiction
      | arrive | work => exact ih hx

/-- A request is dispatched only while the pool has instances. -/
theorem pool_of_dispatch (life : Life settings permits (w :: past)) {r : Nat}
    (h : .dispatch r ∈ w.tasks) : w.scheduler.pool.isEmpty = false := by
  induction life using Life.induct with
  | initial => contradiction
  | signalled _ ih => exact ih h
  | @kept w _ _ life step ih =>
      cases step with
      | @perform task rest htasks =>
          obtain hnew | hrest := List.mem_append.1 h
          · obtain ⟨hpool, hsame⟩ := dispatch_perform hnew
            exact hsame ▸ hpool
          · have hplan := life.planned
            rw [htasks, List.pairwise_cons] at hplan
            have hhead := (hplan.1 _ hrest).head
            contradiction
      | receive _ _ hopens =>
          cases hopens with
          | snapshot => simp [sweep] at h
          | request | finished | failure | handover | ignored => simp at h
      | query => simp at h
      | arrive _ haccept =>
          obtain rfl := accept?_eq haccept
          exact ih h
      | work hwork =>
          have hpool := congrArg Roster.pool hwork.roster_eq
          exact (congrArg Pool.isEmpty hpool).trans (ih h)

end Life

end StreamBalancer
