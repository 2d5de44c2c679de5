import StreamBalancer.Proofs.Interleaving.Requests

/-!
# StreamBalancer.Proofs.Interleaving.Permits

Which requests hold a permit, and when it is given back.

1. A request holds a permit while it is queued, in the scheduler's hands, waiting, carried
   by a forward whose splice is not over, or handed back by one (`Scheduler.held`).
2. Every task, every message and every helper leaves permits and holders alone, or gives
   one permit back, for one request that holds none from then on (`Release`).
3. That happens when a request is refused (`release_perform`), when its splice is over,
   and when it is handed back and the scheduler is gone (`World.work_release`).
-/

namespace StreamBalancer

/-! ## Releases -/

/-- What a step of the scheduler or of a helper does to the free permits and to the requests
that hold one. -/
inductive Release (permits permits' : Nat) (holders holders' : List Nat) : Prop where
  /-- Nothing. -/
  | same (hpermits : permits' = permits) (hholders : holders'.Perm holders)
  /-- A request gives its permit back. -/
  | returns (r : Nat) (hpermits : permits' = permits + 1) (hholders : holders.Perm (r :: holders'))

namespace Release

variable {permits permits' : Nat} {holders holders' : List Nat}

/-- It is one by what is counted. -/
theorem same_of_count (hpermits : permits' = permits)
    (h : ∀ q, holders'.count q = holders.count q) : Release permits permits' holders holders' :=
  .same hpermits (List.perm_iff_count.2 h)

theorem returns_of_count (r : Nat) (hpermits : permits' = permits + 1)
    (h : ∀ q, holders.count q = (if r = q then 1 else 0) + holders'.count q) :
    Release permits permits' holders holders' := by
  refine .returns r hpermits (List.perm_iff_count.2 fun q => ?_)
  rw [h q, List.count_cons, Nat.add_comm]
  simp only [beq_iff_eq]

/-- Free permits and holders together stay as many. -/
theorem total (h : Release permits permits' holders holders') :
    permits' + holders'.length = permits + holders.length := by
  cases h with
  | same hpermits hholders => rw [hpermits, hholders.length_eq]
  | returns r hpermits hholders =>
      rw [hpermits, hholders.length_eq, List.length_cons]
      omega

/-- Others may hold permits besides. -/
theorem append (h : Release permits permits' holders holders') (others : List Nat) :
    Release permits permits' (others ++ holders) (others ++ holders') := by
  cases h with
  | same hpermits hholders => exact .same hpermits (hholders.append_left others)
  | returns r hpermits hholders =>
      exact .returns r hpermits ((hholders.append_left others).trans List.perm_middle)

end Release

/-- The request that holds a permit while a forward is in charge of it: its own one until
the splice is over, and then the one that it hands back. -/
def Forward.permit? (f : Forward) : Option Nat :=
  match f.stage with
  | .ended outcome | .reporting outcome => outcome.request?
  | _ => some f.request

theorem Forward.permit?_of_not_over {f : Forward} (h : f.stage.isOver = false) :
    f.permit? = some f.request := by
  unfold permit?
  split
  · next hstage =>
    rw [hstage] at h
    contradiction
  · next hstage =>
    rw [hstage] at h
    contradiction
  · rfl

namespace Scheduler

/-- The requests that hold a permit and have come to the queue. -/
def held (s : Scheduler) (tasks : List Task) : List Nat :=
  s.jobs ++ (tasks.filterMap Task.request? ++ (s.pending ++
    (s.forwards.filterMap Forward.permit? ++ s.outcomes.filterMap fun f => f.outcome.request?)))

theorem count_held (s : Scheduler) (tasks : List Task) (q : Nat) :
    (s.held tasks).count q = s.jobs.count q + ((tasks.filterMap Task.request?).count q +
      (s.pending.count q + ((s.forwards.filterMap Forward.permit?).count q +
        (s.outcomes.filterMap fun f => f.outcome.request?).count q))) := by
  simp only [held, List.count_append]

/-! ## Tasks -/

theorem filterMap_request_of_none {tasks : List Task} (h : ∀ x ∈ tasks, x.request? = none) :
    tasks.filterMap Task.request? = [] :=
  List.filterMap_eq_nil_iff.2 h

/-- **A task gives a permit back if it refuses a request**, and takes none. -/
theorem release_perform {s : Scheduler} {most : Nat} (h : s.roster.Sound most) (task : Task)
    (rest : List Task) :
    Release s.permits (s.perform task).1.permits (s.held (task :: rest))
      ((s.perform task).1.held ((s.perform task).2 ++ rest)) := by
  have hkept : (∀ r, task ≠ .dispatch r) → (s.perform task).1.permits = s.permits := fun hdispatch =>
    perform_keeps permits (fun _ _ _ _ _ _ _ _ _ _ _ => rfl) s (.inl hdispatch)
  by_cases hmoves : task.movesRequest = false
  · obtain ⟨hrequests, hnone⟩ := requests_perform s hmoves
    simp only [requests, Prod.mk.injEq] at hrequests
    obtain ⟨hjobs, hpending, hforwards, houtcomes, -⟩ := hrequests
    have hnew := filterMap_request_of_none fun x hx => (hnone x hx).1
    have hself : task.request? = none := by
      cases task <;> first | rfl | contradiction
    refine .same (hkept fun r hr => ?_) ?_
    · rw [hr] at hmoves
      contradiction
    · rw [held, held, hjobs, hpending, hforwards, houtcomes, List.filterMap_append, hnew,
        List.filterMap_cons, hself, List.nil_append]
  cases task with
  | request r =>
      refine .same_of_count (hkept (by simp)) fun q => ?_
      simp only [count_held, perform]
      split
      · simp [Task.request?, List.count_cons]
        omega
      · simp [Task.request?]
  | dispatch r =>
      obtain heq | ⟨b, pool, -, -, -, ⟨-, heq⟩ | ⟨-, heq⟩⟩ := perform_dispatch_cases h r
      · rw [heq]
        refine .same_of_count rfl fun q => ?_
        simp [count_held, Task.request?, List.count_cons]
        omega
      · rw [heq]
        refine .returns_of_count r rfl fun q => ?_
        simp [count_held, Task.request?, List.count_cons, refuse, drop, returnPermit, count]
        omega
      · rw [heq]
        refine .same_of_count rfl fun q => ?_
        simp [count_held, Task.request?, List.filterMap_cons, List.count_cons, modifyBackend]
  | start r b =>
      refine .same_of_count rfl fun q => ?_
      simp [count_held, perform, Task.request?, Forward.permit?, startForward, showOngoing,
        setOngoingGauge, List.count_cons]
      omega
  | finished f =>
      obtain ⟨b, outcome⟩ := f
      cases outcome with
      | completed | failed => exact .same rfl (.refl _)
      | dialFailed r => exact .same rfl (.refl _)
  | drain =>
      refine .same_of_count (hkept (by simp)) fun q => ?_
      simp only [count_held, perform]
      split
      · rfl
      · next r pending hpending =>
        split
        · rfl
        · simp [hpending, Task.request?, List.count_cons]
          omega
  | _ => exact absurd rfl hmoves

/-! ## Messages -/

/-- A message that is taken goes from its queue into the scheduler's hands. -/
theorem Receives.release {s t : Scheduler} {e : Event} {tasks : List Task} (h : s.Receives e t)
    (hopens : t.Opens e tasks) :
    Release s.permits t.permits (s.held []) (t.held (tasks ++ [.publish])) := by
  cases h with
  | request h =>
      cases hopens
      refine .same_of_count rfl fun q => ?_
      simp [count_held, h, Task.request?, List.filterMap_cons, List.count_cons]
      omega
  | @finished f rest h =>
      cases hopens
      refine .same_of_count rfl fun q => ?_
      cases hf : f.outcome.request? with
      | none => simp [count_held, h, hf, Task.request?, List.filterMap_cons]
      | some r =>
          simp [count_held, h, hf, Task.request?, List.filterMap_cons, List.count_cons]
          omega
  | snapshot h =>
      have hnone : (tasks ++ [Task.publish]).filterMap Task.request? = [] := by
        refine filterMap_request_of_none fun x hx => ?_
        cases hopens with
        | ignored =>
            rw [List.mem_singleton.1 hx]
            rfl
        | snapshot =>
            obtain ⟨a, rfl⟩ | ⟨a, rfl⟩ | ⟨a, -, rfl⟩ | rfl | rfl := World.Sound.mem_sweep hx <;> rfl
      refine .same rfl ?_
      rw [held, held, hnone]
      rfl
  | failure h =>
      cases hopens
      exact .same rfl (.refl _)
  | handover h =>
      cases hopens
      exact .same rfl (.refl _)

/-! ## Helpers -/

/-- The requests of holders when one of the forwards is told apart. -/
theorem count_permits (front back : List Forward) (f : Forward) (q : Nat) :
    ((front ++ f :: back).filterMap Forward.permit?).count q =
      f.permit?.toList.count q + ((front ++ back).filterMap Forward.permit?).count q := by
  simp only [List.filterMap_append, List.filterMap_cons, List.count_append]
  cases f.permit? with
  | none => simp
  | some r =>
      simp only [Option.toList_some, List.count_cons, List.count_nil]
      omega

end Scheduler

namespace World

open Scheduler

variable {w : World}

/-- A forward that changes its stage gives back a permit if it had one and has none. -/
theorem setForward_release (hapart : w.Apart) {f : Forward}
    (hfind : w.scheduler.forward? f.request = some f) (stage : Forward.Stage) {s : Scheduler}
    (hforwards : s.forwards = (w.scheduler.setForward f.request stage).forwards)
    (hrest : s.held w.tasks = { w.scheduler with forwards := s.forwards }.held w.tasks)
    (h : ({ f with stage } : Forward).permit? = f.permit? ∧ s.permits = w.scheduler.permits ∨
      ({ f with stage } : Forward).permit? = none ∧ f.permit? = some f.request ∧
        s.permits = w.scheduler.permits + 1) :
    Release w.scheduler.permits s.permits (w.scheduler.held w.tasks) (s.held w.tasks) := by
  obtain ⟨front, back, hsplit, hchange, -⟩ := hapart.split_forwards hfind
  have hnew := hforwards.trans (hchange stage)
  obtain ⟨hsame, hpermits⟩ | ⟨hnone, hsome, hpermits⟩ := h
  · refine .same_of_count hpermits fun q => ?_
    rw [hrest, count_held, count_held, hnew, hsplit, count_permits, count_permits, hsame]
  · refine .returns_of_count f.request hpermits fun q => ?_
    rw [hrest, count_held, count_held, hnew, hsplit, count_permits, count_permits, hnone, hsome]
    simp only [Option.toList_some, Option.toList_none, List.count_cons, List.count_nil, beq_iff_eq]
    omega

/-- **A helper gives a permit back when a splice is over**, or a request is handed back and
the scheduler is gone. -/
theorem work_release (hapart : w.Apart) {s : Scheduler} (h : w.scheduler.Work s) :
    Release w.scheduler.permits s.permits (w.scheduler.held w.tasks) (s.held w.tasks) := by
  cases h with
  | post | retune | tick | dialed | undialed => exact .same rfl (.refl _)
  | session h =>
      obtain ⟨x, -, hmoves⟩ := stepSession?_cases h
      cases hmoves with
      | hands =>
          unfold handOver
          split <;> exact .same rfl (.refl _)
      | ends | goes => exact .same rfl (.refl _)
  | @spliced r f route moved hfind hstage =>
      obtain rfl := request_of_forward? hfind
      obtain ⟨g, outcome, heq, houtcome, -⟩ := endSplice_eq hfind moved
      rw [heq]
      refine setForward_release hapart hfind (.ended outcome) rfl rfl (.inr ⟨houtcome, ?_, rfl⟩)
      simp only [Forward.permit?, hstage]
  | forward reach h =>
      obtain ⟨f, hfind, hmoves⟩ := stepForward?_cases h
      obtain rfl := request_of_forward? hfind
      cases hmoves with
      | @advances stage g hold hnew _ =>
          refine setForward_release hapart hfind stage rfl rfl (.inl ⟨?_, rfl⟩)
          rw [Forward.permit?_of_not_over hold]
          cases hover : stage.isOver with
          | false => exact Forward.permit?_of_not_over hover
          | true =>
              rw [hnew hover]
              rfl
      | @releases outcome hold =>
          refine setForward_release hapart hfind (.reporting outcome) rfl rfl (.inl ⟨?_, rfl⟩)
          simp only [Forward.permit?, hold]
      | @reports outcome hold =>
          obtain ⟨front, back, hsplit, -, hremove⟩ := hapart.split_forwards hfind
          have hpermit : f.permit? = outcome.request? := by simp only [Forward.permit?, hold]
          unfold report
          split
          · split
            · next r hr =>
              refine .returns_of_count r rfl fun q => ?_
              rw [count_held, count_held, hsplit, count_permits, hpermit, hr]
              simp only [drop, returnPermit, hremove, Option.toList_some, List.count_singleton,
                beq_iff_eq]
              simp only [removeForward]
              omega
            · next hr =>
              refine .same_of_count rfl fun q => ?_
              rw [count_held, count_held, hsplit, count_permits, hpermit, hr, hremove]
              simp [removeForward]
          · refine .same_of_count rfl fun q => ?_
            rw [count_held, count_held, hsplit, count_permits, hpermit, hremove]
            have hreport : [(⟨f.backend, outcome⟩ : Finished)].filterMap (fun f => f.outcome.request?) =
                outcome.request?.toList := by
              cases hrequest : outcome.request? <;> simp [hrequest]
            simp only [removeForward, List.filterMap_append, List.count_append, hreport]
            omega

/-- A forward is in charge of the permit of its own request only. -/
theorem Apart.eq_of_permit? (hapart : w.Apart) {f : Forward} (hf : f ∈ w.scheduler.forwards)
    {r : Nat} (h : f.permit? = some r) : f.request = r := by
  have hback : ∀ outcome : Outcome, outcome.request? = some r → outcome = .dialFailed r := by
    intro outcome houtcome
    cases outcome with
    | completed | failed => contradiction
    | dialFailed q => exact congrArg _ (Option.some.inj houtcome)
  unfold Forward.permit? at h
  split at h
  · next hstage => exact (hapart.own f hf r (.inl (hback _ h ▸ hstage))).symm
  · next hstage => exact (hapart.own f hf r (.inr (hback _ h ▸ hstage))).symm
  · exact Option.some.inj h

/-- A request that is in one place at most holds one permit at most. -/
theorem Apart.count_held_le (hapart : w.Apart) (r : Nat) :
    (w.scheduler.held w.tasks).count r ≤ w.scheduler.copies r + atHand w.tasks r := by
  have hforwards : (w.scheduler.forwards.filterMap Forward.permit?).count r ≤
      w.scheduler.forwards.countP fun f => f.request == r := by
    rw [List.count_filterMap]
    exact List.countP_mono_left fun f hf hpermit =>
      beq_iff_eq.2 (hapart.eq_of_permit? hf (beq_iff_eq.1 hpermit))
  simp only [count_held, copies, atHand, List.count_filterMap] at *
  omega

end World

end StreamBalancer
