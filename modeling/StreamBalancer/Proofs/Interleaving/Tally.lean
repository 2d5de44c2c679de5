import Mathlib.Algebra.Order.BigOperators.Group.Finset
import StreamBalancer.Proofs.Interleaving.Load

/-!
# StreamBalancer.Proofs.Interleaving.Tally

The load of an instance is the number of forwards that were dispatched to it and
whose report was not handled.

1. Seen from one instance, a step of the whole does one of five things, most often
   nothing (`Tally.Moves`, `Step.tally_moves`).
2. Each of the five keeps the count exact and below the ceiling (`Exact.moves`).
-/

namespace StreamBalancer

/-! ## One instance -/

/-- The load of an instance and the whereabouts of its forwards. -/
structure Tally where
  /-- The load. -/
  ongoing : Nat
  /-- Forwards under way or about to be started. -/
  assigned : Nat
  /-- Reports that wait. -/
  reported : Nat
  /-- Reports at hand. -/
  ended : Nat

namespace Tally

/-- What can happen to the forwards of one instance. -/
inductive Moves (ceiling : Nat) (t u : Tally) : Prop where
  /-- Something else happens. -/
  | same (h : u = t)
  /-- A request is dispatched. -/
  | dispatches (hroom : t.ongoing < ceiling) (hongoing : u.ongoing = t.ongoing + 1)
      (hassigned : u.assigned = t.assigned + 1) (hreported : u.reported = t.reported)
      (hended : u.ended = t.ended)
  /-- A forward reports. -/
  | reports (hongoing : u.ongoing = t.ongoing) (hassigned : t.assigned = u.assigned + 1)
      (hreported : u.reported = t.reported + 1) (hended : u.ended = t.ended)
  /-- The scheduler turns to a report. -/
  | receives (hongoing : u.ongoing = t.ongoing) (hassigned : u.assigned = t.assigned)
      (hreported : t.reported = u.reported + 1) (hended : u.ended = t.ended + 1)
  /-- The scheduler handles a report. -/
  | handles (hongoing : u.ongoing = t.ongoing - 1) (hassigned : u.assigned = t.assigned)
      (hreported : u.reported = t.reported) (hended : t.ended = u.ended + 1)

/-- The load counts the forwards, and keeps below the ceiling. -/
structure Exact (ceiling : Nat) (t : Tally) : Prop where
  count : t.ongoing = t.assigned + t.reported + t.ended
  bound : t.ongoing ≤ ceiling

theorem Exact.moves {ceiling : Nat} {t u : Tally} (h : t.Exact ceiling) (hm : Moves ceiling t u) :
    u.Exact ceiling := by
  obtain ⟨hcount, hbound⟩ := h
  cases hm with
  | same hsame => exact hsame ▸ ⟨hcount, hbound⟩
  | dispatches => exact ⟨by omega, by omega⟩
  | reports => exact ⟨by omega, by omega⟩
  | receives => exact ⟨by omega, by omega⟩
  | handles => exact ⟨by omega, by omega⟩

end Tally

namespace World

open Scheduler

/-- Whether a task is the start of a forward to an instance. -/
def startsAt (b : Nat) : Task → Bool
  | .start _ c => c == b
  | _ => false

/-- Whether a task is the end of a forward to an instance. -/
def endsAt (b : Nat) : Task → Bool
  | .finished f => f.backend == b
  | _ => false

/-- The load of an instance and the whereabouts of its forwards at present. -/
def tally (w : World) (b : Nat) : Tally where
  ongoing := w.scheduler.ongoing b
  assigned := w.scheduler.forwards.countP (fun f => f.backend == b) + w.tasks.countP (startsAt b)
  reported := w.scheduler.outcomes.countP fun f => f.backend == b
  ended := w.tasks.countP (endsAt b)

theorem countP_of_owes_none {tasks : List Task} (h : ∀ x ∈ tasks, x.owes? = none) (b : Nat) :
    tasks.countP (startsAt b) = 0 ∧ tasks.countP (endsAt b) = 0 := by
  constructor <;>
  · rw [List.countP_eq_zero]
    intro x hx
    have hnone := h x hx
    cases x with
    | start | finished => contradiction
    | _ => simp [startsAt, endsAt]

variable {settings : Settings} {permits : Nat} {w w' : World} {past : List World}

/-- The tally of an instance when a task is done and leads to others. -/
theorem tally_tasks (s : Scheduler) (tasks rest : List Task) (arrived : List Nat) (b : Nat) :
    World.tally ⟨s, tasks ++ rest, arrived⟩ b =
      ⟨s.ongoing b,
        s.forwards.countP (fun f => f.backend == b) +
          (tasks.countP (startsAt b) + rest.countP (startsAt b)),
        s.outcomes.countP fun f => f.backend == b,
        tasks.countP (endsAt b) + rest.countP (endsAt b)⟩ := by
  simp only [tally, List.countP_append]

theorem tally_cons {task : Task} {rest : List Task} (htasks : w.tasks = task :: rest) (b : Nat) :
    w.tally b =
      ⟨w.scheduler.ongoing b,
        w.scheduler.forwards.countP (fun f => f.backend == b) +
          ([task].countP (startsAt b) + rest.countP (startsAt b)),
        w.scheduler.outcomes.countP fun f => f.backend == b,
        [task].countP (endsAt b) + rest.countP (endsAt b)⟩ := by
  rw [← tally_tasks w.scheduler [task] rest w.arrived b, List.singleton_append, ← htasks]

/-- A task that neither is nor leads to the start or the end of a forward leaves the
tally of an instance alone. -/
theorem quiet_tally_moves {ceiling : Nat} {task : Task} {rest tasks : List Task} {s : Scheduler}
    {b : Nat} (htasks : w.tasks = task :: rest) (htask : task.owes? = none)
    (hnone : ∀ x ∈ tasks, x.owes? = none) (hongoing : s.ongoing b = w.scheduler.ongoing b)
    (hforwards : s.forwards = w.scheduler.forwards) (houtcomes : s.outcomes = w.scheduler.outcomes) :
    Tally.Moves ceiling (w.tally b) (World.tally ⟨s, tasks ++ rest, w.arrived⟩ b) := by
  obtain ⟨hstarts, hends⟩ := countP_of_owes_none hnone b
  obtain ⟨hstart, hend⟩ := countP_of_owes_none (by simpa using htask : ∀ x ∈ [task], x.owes? = none) b
  apply Tally.Moves.same
  rw [tally_cons htasks, tally_tasks, hstarts, hends, hstart, hend, hongoing, hforwards, houtcomes]

theorem perform_tally_moves (run : Run settings permits (w :: past)) {task : Task} {rest : List Task}
    (htasks : w.tasks = task :: rest) (b : Nat) :
    Tally.Moves settings.ceiling (w.tally b) (World.tally { w with
      scheduler := (w.scheduler.perform task).1, tasks := (w.scheduler.perform task).2 ++ rest } b) := by
  have hsettings : w.scheduler.settings = settings := congrArg Prod.fst run.fixed
  have hroster := run.sound.roster
  by_cases hmoves : task.movesRequest = false
  · obtain ⟨hrequests, hnone⟩ := requests_perform w.scheduler hmoves
    simp only [requests, Prod.mk.injEq] at hrequests
    refine quiet_tally_moves htasks ?_ (fun x hx => (hnone x hx).2) (ongoing_perform _ ?_ b)
      hrequests.2.2.1 hrequests.2.2.2.1
    · cases task <;> first | rfl | contradiction
    · cases task <;> first | rfl | contradiction
  cases task with
  | request r =>
      simp only [perform]
      split
      · exact quiet_tally_moves htasks rfl (by simp) rfl rfl rfl
      · exact quiet_tally_moves htasks rfl (by simp [Task.owes?]) rfl rfl rfl
  | dispatch r =>
      obtain heq | ⟨c, pool, hc, -, -, hcases⟩ := perform_dispatch_cases hroster r
      · rw [heq]
        exact quiet_tally_moves htasks rfl (by simp) rfl rfl rfl
      obtain ⟨-, heq⟩ | ⟨hroom, heq⟩ := hcases
      · rw [heq]
        exact quiet_tally_moves htasks rfl (by simp) rfl rfl rfl
      · rw [heq]
        dsimp only
        rw [tally_cons htasks, tally_tasks]
        have hongoing := ongoing_begin hroster hc pool b
        by_cases hb : b = c
        · subst hb
          rw [if_pos rfl] at hongoing
          refine .dispatches (hsettings ▸ hroom) hongoing ?_ rfl ?_
          · simp [startsAt, modifyBackend]
            omega
          · simp [endsAt]
        · rw [if_neg hb] at hongoing
          apply Tally.Moves.same
          rw [hongoing]
          simp [startsAt, endsAt, modifyBackend, Ne.symm hb]
  | start r c =>
      apply Tally.Moves.same
      rw [tally_cons htasks, tally_tasks]
      simp [perform, startForward, showOngoing, setOngoingGauge, startsAt, endsAt, List.countP_cons]
      exact ⟨rfl, by omega⟩
  | finished f =>
      have hongoing : (w.scheduler.perform (.finished f)).1.ongoing b =
          if b = f.backend then w.scheduler.ongoing f.backend - 1 else w.scheduler.ongoing b := by
        rw [← ongoing_finish]
        obtain ⟨c, outcome⟩ := f
        cases outcome <;> rfl
      have hrest : (w.scheduler.perform (.finished f)).1.forwards = w.scheduler.forwards ∧
          (w.scheduler.perform (.finished f)).1.outcomes = w.scheduler.outcomes ∧
          ∀ x ∈ (w.scheduler.perform (.finished f)).2, x.owes? = none := by
        obtain ⟨c, outcome⟩ := f
        cases outcome with
        | completed | failed => exact ⟨rfl, rfl, by simp [perform]⟩
        | dialFailed r => exact ⟨rfl, rfl, by simp [perform, Task.owes?]⟩
      obtain ⟨hforwards, houtcomes, hnone⟩ := hrest
      obtain ⟨hstarts, hends⟩ := countP_of_owes_none hnone b
      rw [tally_cons htasks, tally_tasks, hforwards, houtcomes, hstarts, hends]
      by_cases hb : b = f.backend
      · rw [if_pos hb, ← hb] at hongoing
        refine .handles hongoing (by simp [startsAt]) rfl ?_
        simp [endsAt, hb]
        omega
      · rw [if_neg hb] at hongoing
        apply Tally.Moves.same
        simp [hongoing, startsAt, endsAt, Ne.symm hb]
  | drain =>
      simp only [perform]
      split
      · exact quiet_tally_moves htasks rfl (by simp) rfl rfl rfl
      · split
        · exact quiet_tally_moves htasks rfl (by simp) rfl rfl rfl
        · exact quiet_tally_moves htasks rfl (by simp [Task.owes?]) rfl rfl rfl
  | _ => exact absurd rfl hmoves

theorem receive_tally_moves {ceiling : Nat} {e : Event} {s : Scheduler} {tasks : List Task}
    (htasks : w.tasks = []) (hreceives : w.scheduler.Receives e s) (hopens : s.Opens e tasks)
    (b : Nat) :
    Tally.Moves ceiling (w.tally b) (World.tally ⟨s, tasks ++ [.publish], w.arrived⟩ b) := by
  have hbefore : w.tally b = World.tally ⟨w.scheduler, [], w.arrived⟩ b := by
    rw [← htasks]
  have hquiet : (∀ x ∈ tasks, x.owes? = none) → s.ongoing b = w.scheduler.ongoing b →
      s.forwards = w.scheduler.forwards → s.outcomes = w.scheduler.outcomes →
      Tally.Moves ceiling (w.tally b) (World.tally ⟨s, tasks ++ [.publish], w.arrived⟩ b) := by
    intro hnone hongoing hforwards houtcomes
    obtain ⟨hstarts, hends⟩ := countP_of_owes_none hnone b
    apply Tally.Moves.same
    rw [hbefore, tally_tasks, hstarts, hends, hongoing, hforwards, houtcomes]
    rfl
  cases hreceives with
  | request =>
      cases hopens
      exact hquiet (by simp [Task.owes?]) rfl rfl rfl
  | @finished f rest houtcomes =>
      cases hopens
      rw [hbefore, tally_tasks]
      by_cases hb : f.backend = b
      · refine .receives rfl ?_ ?_ ?_
        · simp [World.tally, startsAt]
        · simp [World.tally, houtcomes, hb]
        · simp [World.tally, endsAt, hb]
      · apply Tally.Moves.same
        simp [World.tally, houtcomes, hb, startsAt, endsAt, ongoing]
  | snapshot =>
      refine hquiet (fun x hx => ?_) rfl rfl rfl
      cases hopens with
      | ignored => contradiction
      | snapshot =>
          obtain ⟨a, rfl⟩ | ⟨a, rfl⟩ | ⟨a, -, rfl⟩ | rfl | rfl :=
            World.Sound.mem_sweep (List.mem_append_left _ hx) <;> rfl
  | failure =>
      cases hopens
      exact hquiet (by simp [Task.owes?]) rfl rfl rfl
  | handover =>
      cases hopens
      exact hquiet (by simp [Task.owes?]) rfl rfl rfl

theorem work_tally_moves (run : Run settings permits (w :: past)) {s : Scheduler}
    (h : w.scheduler.Work s) (b : Nat) :
    Tally.Moves settings.ceiling (w.tally b) (World.tally ⟨s, w.tasks, w.arrived⟩ b) := by
  have hongoing := h.ongoing_eq b
  have hquiet : s.forwards.countP (fun f => f.backend == b) =
      w.scheduler.forwards.countP (fun f => f.backend == b) → s.outcomes = w.scheduler.outcomes →
      Tally.Moves settings.ceiling (w.tally b) (World.tally ⟨s, w.tasks, w.arrived⟩ b) := by
    intro hforwards houtcomes
    apply Tally.Moves.same
    simp only [tally, hongoing, hforwards, houtcomes]
  have hset : ∀ (t : Scheduler) (r : Nat) (stage : Forward.Stage),
      (t.setForward r stage).forwards.countP (fun f => f.backend == b) =
        t.forwards.countP fun f => f.backend == b := by
    intro t r stage
    have hbackend : ∀ f : Forward,
        (if f.request = r then { f with stage } else f).backend = f.backend := by
      intro f
      split <;> rfl
    simp only [setForward, List.countP_map, Function.comp_def, hbackend]
  cases h with
  | post | dialed | undialed | retune | tick => exact hquiet rfl rfl
  | session h =>
      obtain ⟨x, -, hmoves⟩ := stepSession?_cases h
      cases hmoves with
      | hands =>
          apply hquiet
          · unfold handOver
            split <;> rfl
          · unfold handOver
            split <;> rfl
      | ends | goes => exact hquiet rfl rfl
  | forward reach h =>
      obtain ⟨f, hfind, hmoves⟩ := stepForward?_cases h
      cases hmoves with
      | advances => exact hquiet (hset _ _ _) rfl
      | releases => exact hquiet (hset _ _ _) rfl
      | @reports outcome hold =>
          obtain rfl := request_of_forward? hfind
          obtain ⟨front, back, hsplit, -, hremove⟩ := run.apart.split_forwards hfind
          have hstopped : (w.scheduler.removeForward f.request).stopped = false :=
            congrArg (fun x => x.2.2) run.fixed
          rw [report, if_neg (by simp [hstopped])] at hongoing ⊢
          by_cases hb : f.backend = b
          · refine .reports hongoing ?_ ?_ rfl
            · simp only [tally, hremove, hsplit]
              simp [hb]
              omega
            · simp [tally, hb, removeForward]
          · apply Tally.Moves.same
            simp only [tally, hremove, hsplit]
            simp [hb, removeForward]
            rfl
  | spliced moved h =>
      obtain ⟨g, outcome, heq, -⟩ := endSplice_eq h moved
      rw [heq] at hongoing ⊢
      apply Tally.Moves.same
      simp only [tally, hongoing, hset]
      rfl

/-- Seen from one instance, a step does one of five things. -/
theorem Step.tally_moves (run : Run settings permits (w :: past)) (h : w.Step w') (b : Nat) :
    Tally.Moves settings.ceiling (w.tally b) (w'.tally b) := by
  cases h with
  | perform htasks => exact perform_tally_moves run htasks b
  | receive htasks hreceives hopens => exact receive_tally_moves htasks hreceives hopens b
  | query htasks =>
      apply Tally.Moves.same
      simp [tally, htasks, startsAt, endsAt]
  | arrive _ haccept =>
      obtain rfl := accept?_eq haccept
      exact .same rfl
  | work h => exact work_tally_moves run h b

/-- The forwards that were dispatched to an instance and whose report was not
handled: they are about to be started, or under way, or their report is queued or at
hand. -/
def unfinished (w : World) (b : Nat) : Nat :=
  (w.tally b).assigned + (w.tally b).reported + (w.tally b).ended

/-- How many forwards a step dispatches to an instance. -/
def dispatched (b : Nat) (w w' : World) : Nat := (w'.tally b).assigned - (w.tally b).assigned

/-- How many reports of forwards to an instance a step handles. -/
def handled (b : Nat) (w w' : World) : Nat := (w.tally b).ended - (w'.tally b).ended

/-! ## Guards -/

/-- The count of forwards in flight is that of the forwards that did not leave it. -/
def Guarded (s : Scheduler) : Prop := s.inFlight = s.forwards.countP Forward.inFlight

theorem inFlight_of_not_over {f : Forward} (h : f.stage.isOver = false) : f.inFlight = true := by
  obtain ⟨r, b, stage⟩ := f
  cases stage <;> first | rfl | contradiction

theorem guarded_work (run : Run settings permits (w :: past)) (hguarded : Guarded w.scheduler)
    {s : Scheduler} (h : w.scheduler.Work s) : Guarded s := by
  -- a forward that goes on without leaving the count
  have hset : ∀ {f : Forward} {t : Scheduler} {stage : Forward.Stage},
      w.scheduler.forward? f.request = some f → f.inFlight = true →
      Forward.inFlight { f with stage } = true → t.forwards = w.scheduler.forwards →
      t.inFlight = w.scheduler.inFlight → Guarded (t.setForward f.request stage) := by
    intro f t stage hfind hold hnew hforwards hcount
    obtain ⟨front, back, hsplit, hchange, -⟩ := run.apart.split_forwards hfind
    have hset : (t.setForward f.request stage).forwards = front ++ { f with stage } :: back := by
      rw [← hchange, setForward, setForward, hforwards]
    rw [Guarded, hset]
    rw [Guarded, hsplit] at hguarded
    change t.inFlight = _
    rw [hcount, hguarded]
    simp [hold, hnew]
  cases h with
  | post | dialed | undialed | retune | tick => exact hguarded
  | session h =>
      obtain ⟨x, -, hmoves⟩ := stepSession?_cases h
      cases hmoves with
      | hands =>
          unfold handOver
          split <;> exact hguarded
      | ends | goes => exact hguarded
  | forward reach h =>
      obtain ⟨f, hfind, hmoves⟩ := stepForward?_cases h
      obtain rfl := request_of_forward? hfind
      obtain ⟨front, back, hsplit, hchange, hremove⟩ := run.apart.split_forwards hfind
      cases hmoves with
      | @advances stage g hold hnew _ =>
          refine hset hfind (inFlight_of_not_over hold) ?_ rfl rfl
          cases hover : stage.isOver with
          | true => rw [hnew hover]; rfl
          | false => exact inFlight_of_not_over hover
      | @releases outcome hold =>
          have hf : f.inFlight = true := by rw [Forward.inFlight, hold]
          have hover : Forward.inFlight { f with stage := .reporting outcome } = false := rfl
          have hset : (({ w.scheduler with inFlight := w.scheduler.inFlight - 1 }).setForward f.request
              (.reporting outcome)).forwards = front ++ { f with stage := .reporting outcome } :: back :=
            hchange _
          rw [Guarded, hset]
          rw [Guarded, hsplit] at hguarded
          change w.scheduler.inFlight - 1 = _
          rw [hguarded]
          simp [hf, hover]
      | @reports outcome hold =>
          have hf : f.inFlight = false := by rw [Forward.inFlight, hold]
          have hremoved : Guarded (w.scheduler.removeForward f.request) := by
            rw [Guarded, hremove]
            rw [Guarded, hsplit] at hguarded
            change w.scheduler.inFlight = _
            rw [hguarded]
            simp [hf]
          exact (report_keeps Guarded (fun _ _ _ _ => rfl) _ _).mpr hremoved
  | spliced moved hfind hstage =>
      obtain rfl := request_of_forward? hfind
      obtain ⟨g, outcome, heq, -⟩ := endSplice_eq hfind moved
      rw [heq]
      exact hset hfind (by rw [Forward.inFlight, hstage]) rfl rfl rfl

end World

namespace Run

open Scheduler World

variable {settings : Settings} {permits : Nat} {w : World} {past : List World}

theorem exact (run : Run settings permits (w :: past)) (b : Nat) :
    (w.tally b).Exact settings.ceiling := by
  induction run using Run.induct with
  | initial => exact ⟨rfl, Nat.zero_le _⟩
  | kept run step ih => exact ih.moves (step.tally_moves run b)

theorem guarded (run : Run settings permits (w :: past)) : Guarded w.scheduler := by
  induction run using Run.induct with
  | initial => exact rfl
  | @kept w w' past run step ih =>
      cases step with
      | @perform task =>
          obtain ⟨hforwards, hcount⟩ | ⟨r, b, -, hforwards, hcount⟩ :=
            forwards_perform run.sound.roster task
          · rw [Guarded, hforwards, hcount]
            exact ih
          · rw [Guarded, hforwards, hcount, List.countP_append, ih]
            rfl
      | receive _ hreceives => cases hreceives <;> exact ih
      | query => exact ih
      | arrive _ haccept =>
          obtain rfl := accept?_eq haccept
          exact ih
      | work h => exact guarded_work run ih h

/-- What was dispatched is under way or was handled. -/
theorem handled_add_ongoing (run : Run settings permits (w :: past)) (b : Nat) :
    total (handled b) (w :: past) + w.scheduler.ongoing b = total (dispatched b) (w :: past) := by
  induction run using Run.induct with
  | initial => exact rfl
  | @kept w w' past run step ih =>
      have hongoing : ∀ v : World, v.scheduler.ongoing b = (v.tally b).ongoing := fun _ => rfl
      have hcount := (run.exact b).count
      simp only [total, handled, dispatched, hongoing] at *
      cases step.tally_moves run b with
      | same h =>
          rw [h]
          omega
      | dispatches | reports | receives | handles => omega

end Run

/-- A list of numbers is shared out among the numbers up to a bound. -/
theorem length_eq_sum_count {l : List Nat} {n : Nat} (h : ∀ b ∈ l, b < n) :
    l.length = ∑ b ∈ Finset.range n, l.count b := by
  have hsum := Multiset.sum_count_eq_card (s := Finset.range n) (m := (l : Multiset Nat))
    fun b hb => Finset.mem_range.2 (h b hb)
  simpa using hsum.symm

namespace Run

open Scheduler World

variable {settings : Settings} {permits : Nat} {w : World} {past : List World}

/-- An instance with a load exists. -/
theorem lt_size_of_ongoing {s : Scheduler} {b : Nat} (h : 0 < s.ongoing b) :
    b < s.fleet.backends.size := by
  rw [ongoing] at h
  cases hx : s.fleet.backend? b with
  | none =>
      rw [hx] at h
      contradiction
  | some x => exact (Array.getElem?_eq_some_iff.1 hx).1

/-- Forwards in flight are part of the load of all instances together. -/
theorem inFlight_le_sum (run : Run settings permits (w :: past)) :
    w.scheduler.inFlight ≤
      ∑ b ∈ Finset.range w.scheduler.fleet.backends.size, w.scheduler.ongoing b := by
  let places := w.scheduler.forwards.map Forward.backend
  have hload : ∀ b, places.count b ≤ w.scheduler.ongoing b := by
    intro b
    have hcount : w.scheduler.ongoing b = _ := (run.exact b).count
    rw [hcount, List.count, List.countP_map]
    simp only [tally, Function.comp_def]
    omega
  have hplaces : ∀ b ∈ places, b < w.scheduler.fleet.backends.size := fun b hb =>
    lt_size_of_ongoing (Nat.lt_of_lt_of_le (List.count_pos_iff.2 hb) (hload b))
  calc w.scheduler.inFlight
      = w.scheduler.forwards.countP Forward.inFlight := run.guarded
    _ ≤ w.scheduler.forwards.length := List.countP_le_length
    _ = places.length := (List.length_map _).symm
    _ = ∑ b ∈ Finset.range w.scheduler.fleet.backends.size, places.count b :=
        length_eq_sum_count hplaces
    _ ≤ ∑ b ∈ Finset.range w.scheduler.fleet.backends.size, w.scheduler.ongoing b :=
        Finset.sum_le_sum fun b _ => hload b

/-- **Loads are exact.**  At every moment of every history, the load of every
instance ever created is the number of forwards dispatched to it whose report was
not handled, and not above the ceiling.  So a report that is handled finds a load to
take one from; and the forwards in flight are those that did not leave the count, of
which there are no more than the loads add up to. -/
theorem load_exact (run : Run settings permits (w :: past)) :
    (∀ b, w.scheduler.ongoing b = w.unfinished b ∧
      total (handled b) (w :: past) + w.scheduler.ongoing b = total (dispatched b) (w :: past) ∧
      w.scheduler.ongoing b ≤ settings.ceiling) ∧
    (∀ f rest, w.tasks = .finished f :: rest → 0 < w.scheduler.ongoing f.backend) ∧
    w.scheduler.inFlight = w.scheduler.forwards.countP Forward.inFlight ∧
    w.scheduler.inFlight ≤
      ∑ b ∈ Finset.range w.scheduler.fleet.backends.size, w.scheduler.ongoing b := by
  refine ⟨fun b => ⟨(run.exact b).count, run.handled_add_ongoing b, (run.exact b).bound⟩, ?_,
    run.guarded, run.inFlight_le_sum⟩
  intro f rest htasks
  have hended : 0 < (w.tally f.backend).ended := by
    rw [tally_cons htasks]
    simp [endsAt]
  have hcount : w.scheduler.ongoing f.backend = _ := (run.exact f.backend).count
  omega

/-- A history in which a request was dispatched: the instance has the load of one
forward, which is in flight. -/
theorem load_exact_of_one_dispatch :
    ∃ w past, Run ⟨.leastLoaded, false, 1, 1, 0, ⟨0, 0⟩, default⟩ 1 (w :: past) ∧
      w.scheduler.ongoing 0 = 1 ∧ w.unfinished 0 = 1 ∧ total (dispatched 0) (w :: past) = 1 ∧
      w.scheduler.inFlight = 1 := by
  have begun := @Run.start ⟨.leastLoaded, false, 1, 1, 0, ⟨0, 0⟩, default⟩ 1
  -- a snapshot makes an instance, which has no slots and takes requests at once
  have posted := begun.step (.work (.post (.ofHealthy ["a"])))
  have opened := posted.step
    (.receive rfl (.snapshot rfl) (.snapshot _ (by decide) .rfl .rfl (.inl rfl)))
  have arrived := (opened.step (step_next (by decide +kernel))).step (step_next (by decide +kernel))
  have ready := (arrived.step (step_next (by decide +kernel))).step (step_next (by decide +kernel))
  -- a request comes and is dispatched, and its forward started
  have accepted := ready.step (@Step.arrive _ 0 _ (by decide +kernel) (if_neg (by decide +kernel)))
  have taken := accepted.step
    (.receive (by decide +kernel) (@Receives.request _ 0 [] (by decide +kernel)) (.request 0))
  have chosen := (taken.step (step_next (by decide +kernel))).step (step_next (by decide +kernel))
  have started := (chosen.step (step_next (by decide +kernel))).step (step_next (by decide +kernel))
  have hload := load_exact started
  refine ⟨_, _, started, by decide +kernel, ?_, ?_, by decide +kernel⟩
  · exact (hload.1 0).1.symm.trans (by decide +kernel)
  · exact (hload.1 0).2.1.symm.trans (by decide +kernel)

end Run

end StreamBalancer
