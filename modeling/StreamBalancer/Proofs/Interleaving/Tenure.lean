import Mathlib.Logic.Relation
import StreamBalancer.Proofs.Interleaving.Handlers
import StreamBalancer.Proofs.Interleaving.Permits

/-!
# StreamBalancer.Proofs.Interleaving.Tenure

The scheduler and its helpers from the first event to the end of both.

1. Once shutdown is signalled, the scheduler may leave its loop between two messages.  It
   gives up all instances, in any order, then the waiting requests, one by one, and then it
   is gone.
2. What was sent to it and not handled is let go, message by message.  The queue of requests
   is there a little longer than the other ones.
3. Helpers act before, in between and afterwards.

`Tenure.Step` is one step of this.

* `Tenure.Step.keeps` — every step keeps tables and requests as they should be, and gives one
  permit back at most.
* `Tenure.Steps.stop` — `Scheduler.stop` is what these steps do without interruption.
-/

namespace StreamBalancer

open Scheduler

namespace Scheduler

/-- Let go of the request that a report hands back. -/
def letGo (s : Scheduler) (f : Finished) : Scheduler :=
  match f.outcome.request? with
  | some r => s.drop r
  | none => s

/-- Reports find nobody once the scheduler is gone. -/
theorem report_of_stopped {s : Scheduler} (h : s.stopped = true) (f : Finished) :
    s.report f = s.letGo f := by
  rw [report, if_pos h]
  rfl

/-- Letting go of reports is giving up the requests that they hand back. -/
theorem foldl_letGo (reports : List Finished) (s : Scheduler) :
    reports.foldl letGo s = (reports.filterMap fun f => f.outcome.request?).foldl drop s := by
  induction reports generalizing s with
  | nil => rfl
  | cons f rest ih =>
      rw [List.foldl_cons, ih, letGo, List.filterMap_cons]
      cases f.outcome.request? <;> rfl

end Scheduler

/-- The scheduler with how far its end has come. -/
structure Tenure where
  /-- The scheduler in the midst of its work. -/
  world : World
  /-- Whether the scheduler has left its loop. -/
  leaving : Bool := false
  /-- Whether the queue of requests is there. -/
  isRead : Bool := true

namespace Tenure

/-- The scheduler becomes another one. -/
def become (c : Tenure) (s : Scheduler) : Tenure :=
  { c with world := { c.world with scheduler := s } }

/-- One step, the arrival of a request apart. -/
inductive Step (c : Tenure) : Tenure → Prop where
  /-- The scheduler does its next task. -/
  | perform (h : c.world.tasks ≠ []) : Step c { c with world := c.world.next }
  /-- The scheduler turns to a message. -/
  | receive {e : Event} {s : Scheduler} {tasks : List Task} (hloop : c.leaving = false)
      (hrest : c.world.tasks = []) (hreceives : c.world.scheduler.Receives e s)
      (hopens : s.Opens e tasks) :
      Step c { c with world := { c.world with scheduler := s, tasks := tasks ++ [.publish] } }
  /-- The scheduler is asked for statistics. -/
  | query (hloop : c.leaving = false) (hrest : c.world.tasks = []) :
      Step c { c with world := { c.world with tasks := [.publish] } }
  /-- Somebody else acts. -/
  | work {s : Scheduler} (h : c.world.scheduler.Work s) : Step c (c.become s)
  /-- Shutdown is signalled. -/
  | signal : Step c (c.become c.world.scheduler.signal)
  /-- The scheduler leaves its loop, and is to give up all instances. -/
  | leave {addresses : List String} (hloop : c.leaving = false) (hrest : c.world.tasks = [])
      (hsignalled : c.world.scheduler.signalled = true)
      (haddresses : addresses.Perm
        (c.world.scheduler.schedulable.addresses ++ c.world.scheduler.connecting.addresses)) :
      Step c { c with
        world := { c.world with tasks := addresses.map .remove }
        leaving := true }
  /-- It gives up a waiting request. -/
  | clear {r : Nat} {rest : List Nat} (hleaving : c.leaving = true) (hrest : c.world.tasks = [])
      (h : c.world.scheduler.pending = r :: rest) :
      Step c (c.become (({ c.world.scheduler with pending := rest }).drop r))
  /-- It is gone. -/
  | close (hleaving : c.leaving = true) (hrest : c.world.tasks = [])
      (hpending : c.world.scheduler.pending = []) (hstopped : c.world.scheduler.stopped = false) :
      Step c (c.become { c.world.scheduler.publishGauges with stopped := true })
  /-- A report that was sent before is let go, as those are that find nobody. -/
  | forget {f : Finished} {rest : List Finished} (hstopped : c.world.scheduler.stopped = true)
      (h : c.world.scheduler.outcomes = f :: rest) :
      Step c (c.become (({ c.world.scheduler with outcomes := rest }).report f))
  /-- Snapshots, reports of broken tunnels and tunnels that were handed over are let go. -/
  | lose (hstopped : c.world.scheduler.stopped = true) :
      Step c (c.become { c.world.scheduler with
        snapshots := []
        handovers := []
        fleet := { c.world.scheduler.fleet with failures := [] } })
  /-- The queue of requests is closed. -/
  | shut (hstopped : c.world.scheduler.stopped = true) : Step c { c with isRead := false }
  /-- A request that was queued before is let go. -/
  | discard {r : Nat} {rest : List Nat} (hshut : c.isRead = false)
      (h : c.world.scheduler.jobs = r :: rest) :
      Step c (c.become (({ c.world.scheduler with jobs := rest }).drop r))

end Tenure

/-! ## What a step keeps -/

namespace World

/-- What a step keeps: none arrives, requests stay apart, and at most one permit is given
back. -/
structure Keeps (w w' : World) : Prop where
  sound : w'.Sound
  apart : w'.Apart
  arrived : w'.arrived = w.arrived
  release : Release w.scheduler.permits w'.scheduler.permits (w.scheduler.held w.tasks)
    (w'.scheduler.held w'.tasks)

variable {w : World}

/-- Requests stay apart if forwards stay and no request is in more places. -/
theorem Apart.of_copies_le (h : w.Apart) {w' : World}
    (hforwards : w'.scheduler.forwards = w.scheduler.forwards) (harrived : w'.arrived = w.arrived)
    (hcopies : ∀ r, w'.scheduler.copies r + atHand w'.tasks r ≤
      w.scheduler.copies r + atHand w.tasks r) : w'.Apart where
  own f hf := h.own f (hforwards ▸ hf)
  once r := by
    rw [harrived]
    exact Nat.le_trans (hcopies r) (h.once r)

/-- What does not touch tables, forwards and permits, and leaves each request in its place. -/
theorem Keeps.of_copies_eq (hsound : w.Sound) (hapart : w.Apart) {s : Scheduler}
    (hroster : s.roster = w.scheduler.roster) (hfixed : s.fixed = w.scheduler.fixed)
    (hforwards : s.forwards = w.scheduler.forwards) (hpermits : s.permits = w.scheduler.permits)
    (hcopies : ∀ q, s.copies q = w.scheduler.copies q)
    (hheld : ∀ q, (s.held w.tasks).count q = (w.scheduler.held w.tasks).count q) :
    w.Keeps { w with scheduler := s } where
  sound := hsound.of_roster_eq hroster hfixed _
  apart := hapart.of_copies_le hforwards rfl fun q => Nat.le_of_eq (by rw [hcopies q])
  arrived := rfl
  release := .same_of_count hpermits hheld

/-- A request that is in no other place is given up with its permit. -/
theorem Keeps.of_drop (hsound : w.Sound) (hapart : w.Apart) {s : Scheduler} {r : Nat}
    (hroster : s.roster = w.scheduler.roster) (hfixed : s.fixed = w.scheduler.fixed)
    (hforwards : s.forwards = w.scheduler.forwards) (hpermits : s.permits = w.scheduler.permits)
    (hcopies : ∀ q, w.scheduler.copies q = s.copies q + if r = q then 1 else 0)
    (hheld : ∀ q, (w.scheduler.held w.tasks).count q =
      (if r = q then 1 else 0) + (s.held w.tasks).count q) :
    w.Keeps { w with scheduler := s.drop r } where
  sound := hsound.of_roster_eq (s := s.drop r) hroster hfixed w.arrived
  apart := by
    refine hapart.of_copies_le hforwards rfl fun q => ?_
    change s.copies q + atHand w.tasks q ≤ _
    rw [hcopies q]
    omega
  arrived := rfl
  release := .returns_of_count r (congrArg (· + 1) hpermits) hheld

end World

namespace Tenure

/-- **Every step keeps tables and requests as they should be**, and gives back one permit at
most, for a request that is gone. -/
theorem Step.keeps {c c' : Tenure} (hsound : c.world.Sound) (hapart : c.world.Apart)
    (step : c.Step c') : c.world.Keeps c'.world := by
  cases step with
  | perform h =>
      have hstep := World.step_next h
      refine ⟨hsound.step hstep, hapart.step hsound hstep, ?_, ?_⟩
      · unfold World.next
        split <;> rfl
      · unfold World.next
        split
        · contradiction
        · next task rest htasks =>
          rw [htasks]
          exact release_perform hsound.roster task rest
  | receive _ hrest hreceives hopens =>
      have hstep := World.Step.receive hrest hreceives hopens
      refine ⟨hsound.step hstep, hapart.step hsound hstep, rfl, ?_⟩
      rw [hrest]
      exact hreceives.release hopens
  | query _ hrest =>
      have hstep := World.Step.query hrest
      refine ⟨hsound.step hstep, hapart.step hsound hstep, rfl, .same rfl ?_⟩
      rw [hrest]
      exact .refl _
  | work h =>
      have hstep := World.Step.work h
      exact ⟨hsound.step hstep, hapart.step hsound hstep, rfl, World.work_release hapart h⟩
  | signal =>
      exact ⟨⟨hsound.roster, hsound.ordered, hsound.live, hsound.emptying, hsound.arriving⟩,
        hapart.of_copies_le rfl rfl fun _ => Nat.le_refl _, rfl, .same rfl (.refl _)⟩
  | @leave addresses _ hrest =>
      have hnone : ∀ x ∈ addresses.map Task.remove, ∃ a, x = .remove a := by
        intro x hx
        obtain ⟨a, -, rfl⟩ := List.mem_map.1 hx
        exact ⟨a, rfl⟩
      refine ⟨hsound.of_tasks rfl rfl ?_ ?_ ?_, hapart.of_copies_le rfl rfl fun r => ?_, rfl,
        .same rfl ?_⟩
      · exact List.pairwise_map.2 (List.pairwise_of_forall fun _ _ => Task.before_of_remove rfl)
      · intro x hx
        obtain ⟨a, rfl⟩ := hnone x hx
        exact ⟨rfl, fun _ _ h => by contradiction⟩
      · intro a ha
        obtain ⟨k, hk⟩ := hnone _ ha
        contradiction
      · have hzero : atHand (addresses.map Task.remove) r = 0 := by
          refine atHand_eq_zero (fun x hx => ?_) r
          obtain ⟨a, rfl⟩ := hnone x hx
          rfl
        dsimp only
        omega
      · have hzero : (addresses.map Task.remove).filterMap Task.request? = [] := by
          refine filterMap_request_of_none fun x hx => ?_
          obtain ⟨a, rfl⟩ := hnone x hx
          rfl
        rw [held, held, hzero, hrest]
        exact .refl _
  | clear _ _ h =>
      refine .of_drop hsound hapart rfl rfl rfl rfl (fun q => ?_) fun q => ?_
      · simp only [copies, h, List.count_cons, beq_iff_eq]
        omega
      · simp only [count_held, h, List.count_cons, beq_iff_eq]
        omega
  | close =>
      exact ⟨⟨hsound.roster, hsound.ordered, hsound.live, hsound.emptying, hsound.arriving⟩,
        hapart.of_copies_le rfl rfl fun _ => Nat.le_refl _, rfl, .same rfl (.refl _)⟩
  | @forget f rest hstopped h =>
      rw [report_of_stopped (by exact hstopped)]
      unfold letGo
      cases hf : f.outcome.request? with
      | none =>
          refine .of_copies_eq hsound hapart rfl rfl rfl rfl (fun q => ?_) fun q => ?_
          · simp [copies, h, hf]
          · simp [count_held, h, hf]
      | some r =>
          refine .of_drop hsound hapart rfl rfl rfl rfl (fun q => ?_) fun q => ?_
          · simp only [copies, h, List.countP_cons, hf, beq_iff_eq, Option.some.injEq]
            omega
          · simp only [count_held, h, hf, List.filterMap_cons, List.count_cons, beq_iff_eq]
            omega
  | lose =>
      exact .of_copies_eq hsound hapart rfl rfl rfl rfl (fun _ => rfl) fun _ => rfl
  | shut => exact ⟨hsound, hapart, rfl, .same rfl (.refl _)⟩
  | discard _ h =>
      refine .of_drop hsound hapart rfl rfl rfl rfl (fun q => ?_) fun q => ?_
      · simp only [copies, h, List.count_cons, beq_iff_eq]
        omega
      · simp only [count_held, h, List.count_cons, beq_iff_eq]
        omega

/-! ## The end, done without interruption -/

/-- Any number of steps. -/
abbrev Steps : Tenure → Tenure → Prop := Relation.ReflTransGen Step

/-- Tasks may be done one after the other. -/
theorem Steps.of_does {s t : Scheduler} {tasks : List Task} {c : Tenure} (h : Does s tasks t)
    (hscheduler : c.world.scheduler = s) (htasks : c.world.tasks = tasks) :
    Steps c { c with world := { c.world with scheduler := t, tasks := [] } } := by
  induction h generalizing c with
  | nil s =>
      subst hscheduler
      obtain ⟨⟨_, _, _⟩, _, _⟩ := c
      obtain rfl := htasks
      exact .refl
  | @cons s t task rest _ ih =>
      have hne : c.world.tasks ≠ [] := by simp [htasks]
      have hnext : c.world.next = { c.world with
          scheduler := (s.perform task).1, tasks := (s.perform task).2 ++ rest } := by
        rw [World.next, htasks, hscheduler]
      refine .head (.perform hne) ?_
      rw [hnext]
      exact ih rfl rfl

/-- Things may be let go one after the other.  `p` puts a list where they are, and `g` lets one
of them go. -/
theorem Steps.each {α : Type} (c : Tenure) {p : List α → Scheduler → Scheduler}
    {g : Scheduler → α → Scheduler} {P : Scheduler → Prop}
    (hstep : ∀ s a rest, P s → (c.become (p (a :: rest) s)).Step (c.become (p rest (g s a))))
    (hP : ∀ s a, P s → P (g s a)) (l : List α) {s : Scheduler} (h : P s) :
    Steps (c.become (p l s)) (c.become (p [] (l.foldl g s))) := by
  induction l generalizing s with
  | nil => exact .refl
  | cons a rest ih => exact .head (hstep s a rest h) (ih (hP s a h))

/-- **What `Scheduler.tearDown` does at once is what these steps do one by one**, and then the
scheduler is gone. -/
theorem Steps.tearDown {s : Scheduler} (hsignalled : s.signalled = true)
    (hstopped : s.stopped = false) (arrived : List Nat) (isRead : Bool) :
    Steps ⟨⟨s, [], arrived⟩, false, isRead⟩
      ⟨⟨{ s.tearDown with stopped := true }, [], arrived⟩, true, isRead⟩ := by
  let addresses := s.schedulable.addresses ++ s.connecting.addresses
  let t := addresses.foldl removeBackend s
  let emptied : Tenure := ⟨⟨t, [], arrived⟩, true, isRead⟩
  let cleared : Tenure := emptied.become { t.pending.foldl drop t with pending := [] }
  have hdoes : Does s (addresses.map .remove) t := Does.map does_remove addresses s
  have hgone : Steps ⟨⟨s, [], arrived⟩, false, isRead⟩ emptied :=
    .head (.leave rfl rfl hsignalled (.refl addresses)) (Steps.of_does hdoes rfl rfl)
  have hcleared : Steps emptied cleared :=
    Steps.each emptied (p := fun l s => { s with pending := l }) (g := drop) (P := fun _ => True)
      (fun _ _ _ _ => .clear rfl rfl rfl) (fun _ _ _ => trivial) t.pending (s := t) trivial
  have hthere : cleared.world.scheduler.stopped = false := by
    have ht : t.stopped = false :=
      hdoes.kept (fun s => s.stopped = false) (fun _ => true)
        (fun s x _ h => ⟨(congrArg (·.2.2) (fixed_perform s x)).trans h, fun _ _ => rfl⟩)
        (fun _ _ => rfl) hstopped
    change (t.pending.foldl drop t).stopped = false
    rw [foldl_drop]
    exact ht
  exact (hgone.trans hcleared).tail (.close rfl rfl rfl hthere)

/-- **What `Scheduler.stop` does at once is what these steps do one by one.** -/
theorem Steps.stop {s : Scheduler} (hsignalled : s.signalled = true) (hstopped : s.stopped = false)
    (arrived : List Nat) :
    Steps ⟨⟨s, [], arrived⟩, false, true⟩ ⟨⟨s.stop, [], arrived⟩, true, false⟩ := by
  let t : Scheduler := { s.tearDown with stopped := true }
  let gone : Tenure := ⟨⟨t, [], arrived⟩, true, true⟩
  let forgotten : Scheduler := { t.outcomes.foldl letGo t with outcomes := [] }
  let lost : Scheduler := { forgotten with
    snapshots := [], handovers := [], fleet := { forgotten.fleet with failures := [] } }
  let shut : Tenure := ⟨⟨lost, [], arrived⟩, true, false⟩
  have hforgotten : Steps gone (gone.become forgotten) := by
    refine Steps.each gone (p := fun l s => { s with outcomes := l }) (g := letGo)
      (P := fun s => s.stopped = true) (fun s f rest hs => ?_) (fun s f hs => ?_) t.outcomes
      (s := t) rfl
    · have hstep := @Step.forget (gone.become { s with outcomes := f :: rest }) f rest hs rfl
      rw [report_of_stopped (by exact hs)] at hstep
      have hkept : ({ s with outcomes := rest }).letGo f = { s.letGo f with outcomes := rest } := by
        unfold letGo
        split <;> rfl
      exact hkept ▸ hstep
    · unfold letGo
      split <;> exact hs
  have hthere : forgotten.stopped = true := by
    change (t.outcomes.foldl letGo t).stopped = true
    rw [foldl_letGo, foldl_drop]
  have hshut : Steps (gone.become forgotten) shut :=
    .tail (.single (.lose hthere)) (.shut hthere)
  have hdiscarded : Steps shut (shut.become { lost.jobs.foldl drop lost with jobs := [] }) :=
    Steps.each shut (p := fun l s => { s with jobs := l }) (g := drop) (P := fun _ => True)
      (fun s r rest _ => @Step.discard (shut.become { s with jobs := r :: rest }) r rest rfl rfl)
      (fun _ _ _ => trivial) lost.jobs (s := lost) trivial
  have hsame : ({ lost.jobs.foldl drop lost with jobs := [] } : Scheduler) = s.stop := by
    simp [lost, forgotten, t, foldl_letGo, foldl_drop, Scheduler.stop, discardMessages, Nat.add_assoc]
  rw [← hsame]
  exact (Steps.tearDown hsignalled hstopped arrived true).trans
    ((hforgotten.trans hshut).trans hdiscarded)

end Tenure

end StreamBalancer
