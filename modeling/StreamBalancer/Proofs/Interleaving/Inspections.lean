import StreamBalancer.Proofs.Interleaving.Dispatches
import StreamBalancer.Proofs.Interleaving.Slots
import StreamBalancer.Proofs.Interleaving.Snapshots

/-!
# StreamBalancer.Proofs.Interleaving.Inspections

When the tunnels of an instance are inspected, and what an inspection does.

1. Every dispatch is followed by its check (`Life.check_of_assigns`).  The check leads to
   looks at all slots if the last inspection is as long ago as the settings say, or there was
   none, and to nothing otherwise (`World.after_check`).  So inspections of one instance keep
   their distance (`Life.watched`).
2. An inspection looks at each slot once, weighs each tunnel that it finds once, and asks for
   a replacement exactly where the tunnel is worn (`Life.examined`).
-/

namespace StreamBalancer

theorem Backend.counts_inspected : Counts inspected none :=
  ⟨fun _ _ _ => rfl, fun _ _ => rfl, fun _ => rfl, fun _ _ _ => rfl⟩

namespace Scheduler

variable {s t : Scheduler}

/-- When an instance was last inspected. -/
def lastInspection (s : Scheduler) (b : Nat) : Option Nat := s.read Backend.inspected none b

theorem lastInspection_eq {b : Nat} {x : Backend} (hx : s.fleet.backend? b = some x) :
    s.lastInspection b = x.inspected := by
  rw [lastInspection, read, hx]
  rfl

/-- The looks at all slots of an instance. -/
def looks (b k : Nat) : List Task := (List.range k).map (.inspect b)

theorem lastInspection_perform (s : Scheduler) {task : Task} (h : task.isCheck = false) (b : Nat) :
    (s.perform task).1.lastInspection b = s.lastInspection b := by
  cases task with
  | check => contradiction
  | dispatch r =>
      simp only [perform]
      split
      · rfl
      · next c pool _ =>
        split
        · rfl
        · exact read_keeps { s with pool } c Backend.begin b fun _ => rfl
  | finished f =>
      obtain ⟨c, outcome⟩ := f
      cases outcome <;> exact read_keeps s c Backend.finish b fun _ => rfl
  | _ => exact read_perform Backend.counts_inspected s rfl b

/-- A check inspects, if that is due, or only counts. -/
theorem perform_check {b : Nat} {x : Backend} (hx : s.fleet.backend? b = some x) :
    (x.inspectionDue s.settings.policy s.uptime = true ∧
        (s.perform (.check b)).2 = looks b x.slots.length ∧
        ∀ c, (s.perform (.check b)).1.lastInspection c =
          if c = b then some s.uptime else s.lastInspection c) ∨
      (x.inspectionDue s.settings.policy s.uptime = false ∧ (s.perform (.check b)).2 = [] ∧
        ∀ c, (s.perform (.check b)).1.lastInspection c = s.lastInspection c) := by
  simp only [perform, hx]
  cases hdue : x.inspectionDue s.settings.policy s.uptime with
  | true =>
      refine .inl ⟨rfl, rfl, fun c => ?_⟩
      exact (read_modifyBackend s b c _).trans (by rw [hx]; rfl)
  | false =>
      exact .inr ⟨rfl, rfl, fun c => read_keeps s b Backend.countDispatch c fun _ => rfl⟩

theorem inspectionDue_iff {x : Backend} {policy : TunnelPolicy} {now : Nat}
    (hlast : ∀ time, x.inspected = some time → time ≤ now) :
    x.inspectionDue policy now = true ↔
      x.slots ≠ [] ∧ ∀ time, x.inspected = some time → time + policy.checkInterval ≤ now := by
  rw [Backend.inspectionDue, Bool.and_eq_true, Bool.not_eq_true', List.isEmpty_eq_false_iff]
  refine and_congr_right fun _ => ?_
  cases hx : x.inspected with
  | none => simp
  | some time =>
      have hle := hlast time hx
      simp only [decide_eq_true_iff, Option.some.injEq, forall_eq']
      omega

theorem Work.uptime_le (h : s.Work t) : s.uptime ≤ t.uptime := by
  cases h with
  | tick _ huptime => exact huptime
  | post | dialed | undialed | retune => exact Nat.le_refl _
  | session h =>
      obtain ⟨x, -, hmoves⟩ := stepSession?_cases h
      cases hmoves with
      | hands =>
          unfold handOver
          split <;> exact Nat.le_refl _
      | ends | goes => exact Nat.le_refl _
  | forward reach h =>
      obtain ⟨f, -, hmoves⟩ := stepForward?_cases h
      cases hmoves with
      | advances | releases => exact Nat.le_refl _
      | reports =>
          rw [report_keeps Scheduler.uptime fun _ _ _ _ => rfl]
          exact Nat.le_refl _
  | spliced moved h =>
      obtain ⟨g, outcome, heq, -⟩ := endSplice_eq h moved
      rw [heq]
      exact Nat.le_refl _

theorem Work.lastInspection_eq (h : s.Work t) (b : Nat) :
    t.lastInspection b = s.lastInspection b :=
  h.read_eq Backend.counts_inspected b

end Scheduler

namespace World

open Scheduler

variable {w w' : World} {past : List World}

/-- The check of a dispatch leads to looks at tunnels. -/
def Inspects (b : Nat) (w w' : World) : Prop :=
  w.does w' = some (.check b) ∧ w'.tasks ≠ w.tasks.tail

instance (b : Nat) (w w' : World) : Decidable (Inspects b w w') :=
  inferInstanceAs (Decidable (_ ∧ _))

theorem not_inspects (h : w.does w' = none) (b : Nat) : ¬Inspects b w w' := by
  intro hno
  have hnone := hno.1.symm.trans h
  contradiction

/-- When an instance was inspected, the first time first. -/
def inspections (b : Nat) : List World → List Nat :=
  gather fun w w' => if Inspects b w w' then some w.scheduler.uptime else none

theorem inspections_cons (b : Nat) (w' w : World) (past : List World) :
    inspections b (w' :: w :: past) = inspections b (w :: past) ++
      if Inspects b w w' then [w.scheduler.uptime] else [] := by
  rw [inspections, gather_cons]
  split <;> rfl

/-- The clock of the inspections does not go back. -/
theorem Step.uptime_le (step : w.Step w') : w.scheduler.uptime ≤ w'.scheduler.uptime := by
  cases step with
  | @perform task rest htasks =>
      exact Nat.le_of_eq (@perform_keeps _ Scheduler.uptime (fun _ _ _ _ _ _ _ _ _ _ _ => rfl)
        w.scheduler task (.inr fun _ _ _ => rfl)).symm
  | receive _ hreceives => cases hreceives <;> exact Nat.le_refl _
  | query => exact Nat.le_refl _
  | arrive _ haccept =>
      obtain rfl := accept?_eq haccept
      exact Nat.le_refl _
  | work h => exact h.uptime_le

/-- The last inspection of an instance is long enough ago, or there was none. -/
def InspectionDue (w : World) (b : Nat) : Prop :=
  ∀ time, w.scheduler.lastInspection b = some time →
    time + w.scheduler.settings.policy.checkInterval ≤ w.scheduler.uptime

/-- A check that is due leads to looks at all slots, any other one to nothing. -/
theorem after_check {b : Nat} {x : Backend} {rest : List Task}
    (hx : w.scheduler.fleet.backend? b = some x) (htasks : w.tasks = .check b :: rest)
    (hpast : ∀ time, w.scheduler.lastInspection b = some time → time ≤ w.scheduler.uptime) :
    (x.slots ≠ [] ∧ w.InspectionDue b ∧ w.Inspects b (w.after (.check b) rest) ∧
        (w.after (.check b) rest).tasks = looks b x.slots.length ++ rest ∧
        ∀ c, (w.after (.check b) rest).scheduler.lastInspection c =
          if c = b then some w.scheduler.uptime else w.scheduler.lastInspection c) ∨
      (¬(x.slots ≠ [] ∧ w.InspectionDue b) ∧ ¬w.Inspects b (w.after (.check b) rest) ∧
        (w.after (.check b) rest).tasks = rest ∧
        ∀ c, (w.after (.check b) rest).scheduler.lastInspection c =
          w.scheduler.lastInspection c) := by
  have hdoes := does_after htasks
  rw [lastInspection_eq hx] at hpast
  have hiff := @inspectionDue_iff x w.scheduler.settings.policy _ hpast
  obtain ⟨hdue, hnew, hlast⟩ | ⟨hdue, hnew, hlast⟩ := perform_check hx
  · obtain ⟨hslots, hlong⟩ := hiff.1 hdue
    have hafter : (w.after (.check b) rest).tasks = looks b x.slots.length ++ rest :=
      congrArg (· ++ rest) hnew
    refine .inl ⟨hslots, ?_, ⟨hdoes, fun heq => ?_⟩, hafter, hlast⟩
    · rwa [InspectionDue, lastInspection_eq hx]
    · rw [hafter, htasks, List.tail_cons] at heq
      have hlength := congrArg List.length heq
      have hpos := List.length_pos_iff.2 hslots
      simp only [looks, List.length_append, List.length_map, List.length_range] at hlength
      omega
  · have hafter : (w.after (.check b) rest).tasks = rest := congrArg (· ++ rest) hnew
    refine .inr ⟨fun hno => ?_, fun hno => hno.2 ?_, hafter, hlast⟩
    · rw [InspectionDue, lastInspection_eq hx] at hno
      rw [hiff.2 hno] at hdue
      contradiction
    · rw [hafter, htasks, List.tail_cons]

end World

namespace Life

open Scheduler World

variable {settings : Settings} {permits : Nat} {w w' : World} {past : List World}

/-- The first thing that follows on a dispatch is its check. -/
theorem check_of_assigns (life : Life settings permits (w :: past)) (step : w.Step w') {r b : Nat}
    (h : w.assigns w' = some (r, b)) : ∃ rest, w'.tasks = .check b :: rest := by
  obtain ⟨-, rest, htasks⟩ := (life.moves step).dispatch_of_assigns h
  cases step with
  | perform hnext =>
      obtain ⟨rfl, rfl⟩ := List.cons.inj (hnext.symm.trans htasks)
      obtain ⟨-, hnone⟩ | ⟨c, hnew, hsome⟩ := life.perform_dispatch_assigns hnext
      · rw [hnone] at h
        contradiction
      · obtain ⟨-, rfl⟩ := Prod.mk.inj (Option.some.inj (hsome.symm.trans h))
        exact ⟨_, congrArg (· ++ _) hnew⟩
  | receive hrest | query hrest =>
      rw [hrest] at htasks
      contradiction
  | arrive _ haccept =>
      obtain rfl := accept?_eq haccept
      have hnone := h.symm.trans (assigns_of_le rfl (Nat.le_refl _))
      contradiction
  | work hwork =>
      have hnone := h.symm.trans (assigns_of_le rfl hwork.forwards_le)
      contradiction

/-- The instance of a check exists. -/
theorem exists_of_check (life : Life settings permits (w :: past)) {b : Nat} {rest : List Task}
    (htasks : w.tasks = .check b :: rest) : ∃ x, w.scheduler.fleet.backend? b = some x := by
  have hlive := life.sound.live _ (htasks ▸ List.mem_cons_self) b rfl
  rw [isRetired] at hlive
  cases hx : w.scheduler.fleet.backend? b with
  | none =>
      rw [hx] at hlive
      contradiction
  | some x => exact ⟨x, rfl⟩

end Life

namespace World

open Scheduler

/-- What is known of the inspections of an instance. -/
structure Watched (w : World) (past : List World) (b : Nat) : Prop where
  last : w.scheduler.lastInspection b = (inspections b (w :: past)).getLast?
  before : ∀ time ∈ inspections b (w :: past), time ≤ w.scheduler.uptime
  spaced : (inspections b (w :: past)).Pairwise fun t u =>
    t + w.scheduler.settings.policy.checkInterval ≤ u

variable {w w' : World} {past : List World} {b : Nat}

theorem Watched.last_le (h : w.Watched past b) (time : Nat)
    (hlast : w.scheduler.lastInspection b = some time) : time ≤ w.scheduler.uptime :=
  h.before time (List.mem_of_getLast? (h.last.symm.trans hlast))

/-- Inspections keep their distance, so the last one is the one that counts. -/
theorem Watched.due_iff (h : w.Watched past b) : w.InspectionDue b ↔
    ∀ time ∈ inspections b (w :: past),
      time + w.scheduler.settings.policy.checkInterval ≤ w.scheduler.uptime := by
  rw [InspectionDue, h.last]
  refine ⟨fun hlast time htime => ?_, fun hall time hlast => hall time (List.mem_of_getLast? hlast)⟩
  have hlatest := List.getLast?_eq_some_getLast (List.ne_nil_of_mem htime)
  have hlong := hlast _ hlatest
  obtain ⟨front, hsplit⟩ := List.getLast?_eq_some_iff.1 hlatest
  have hspaced := h.spaced
  rw [hsplit, List.pairwise_append] at hspaced
  rw [hsplit] at htime
  obtain hfront | hself := List.mem_append.1 htime
  · have hgap := hspaced.2.2 time hfront _ (List.mem_singleton_self _)
    omega
  · rw [List.mem_singleton.1 hself]
    exact hlong

/-- Whoever inspects nothing leaves it at that. -/
theorem Watched.of_none (h : w.Watched past b) (hnone : ¬Inspects b w w')
    (hlast : w'.scheduler.lastInspection b = w.scheduler.lastInspection b)
    (hsettings : w'.scheduler.settings = w.scheduler.settings)
    (huptime : w.scheduler.uptime ≤ w'.scheduler.uptime) : w'.Watched (w :: past) b := by
  have hsame : inspections b (w' :: w :: past) = inspections b (w :: past) := by
    rw [inspections_cons, if_neg hnone, List.append_nil]
  refine ⟨hlast.trans (hsame ▸ h.last), fun time htime => ?_, ?_⟩
  · exact Nat.le_trans (h.before time (hsame ▸ htime)) huptime
  · rw [hsame, hsettings]
    exact h.spaced

/-- An inspection that is due keeps the distance to those before. -/
theorem Watched.of_inspects (h : w.Watched past b) (hinspects : Inspects b w w') (hdue : w.InspectionDue b)
    (hlast : w'.scheduler.lastInspection b = some w.scheduler.uptime)
    (hsettings : w'.scheduler.settings = w.scheduler.settings)
    (huptime : w.scheduler.uptime ≤ w'.scheduler.uptime) : w'.Watched (w :: past) b := by
  have hnew : inspections b (w' :: w :: past) = inspections b (w :: past) ++ [w.scheduler.uptime] := by
    rw [inspections_cons, if_pos hinspects]
  refine ⟨?_, fun time htime => ?_, ?_⟩
  · rw [hlast, hnew, List.getLast?_concat]
  · rw [hnew] at htime
    obtain hold | hself := List.mem_append.1 htime
    · exact Nat.le_trans (h.before time hold) huptime
    · rw [List.mem_singleton.1 hself]
      exact huptime
  · rw [hnew, hsettings, List.pairwise_append]
    refine ⟨h.spaced, List.pairwise_singleton _ _, fun time htime u hu => ?_⟩
    rw [List.mem_singleton.1 hu]
    exact h.due_iff.1 hdue time htime

/-- A step is an inspection that is due, or none of the instance. -/
theorem Watched.step (h : w.Watched past b) (step : w.Step w')
    (hexists : ∀ c rest, w.tasks = .check c :: rest → ∃ x, w.scheduler.fleet.backend? c = some x)
    (hlast : ∀ c time, w.scheduler.lastInspection c = some time → time ≤ w.scheduler.uptime)
    (hsettings : w'.scheduler.settings = w.scheduler.settings) : w'.Watched (w :: past) b := by
  have huptime := step.uptime_le
  cases step with
  | @perform task rest htasks =>
      have hdoes := does_after htasks
      by_cases hcheck : ∃ c, task = .check c
      · obtain ⟨c, rfl⟩ := hcheck
        obtain ⟨x, hx⟩ := hexists c rest htasks
        obtain ⟨-, hdue, hinspects, -, hnew⟩ | ⟨-, hinspects, -, hsame⟩ :=
          after_check hx htasks (hlast c)
        · by_cases hb : c = b
          · subst hb
            exact h.of_inspects hinspects hdue ((hnew c).trans (if_pos rfl)) hsettings huptime
          · refine h.of_none (fun hno => hb ?_) ((hnew b).trans (if_neg (Ne.symm hb))) hsettings huptime
            exact Task.check.inj (Option.some.inj (hinspects.1.symm.trans hno.1))
        · by_cases hb : c = b
          · subst hb
            exact h.of_none hinspects (hsame c) hsettings huptime
          · refine h.of_none (fun hno => hb ?_) (hsame b) hsettings huptime
            exact Task.check.inj (Option.some.inj (hdoes.symm.trans hno.1))
      · refine h.of_none (fun hno => hcheck ⟨b, ?_⟩) ?_ hsettings huptime
        · exact Option.some.inj (hdoes.symm.trans hno.1)
        · refine lastInspection_perform w.scheduler ?_ b
          cases task <;> first | rfl | exact absurd ⟨_, rfl⟩ hcheck
  | receive hrest hreceives =>
      exact h.of_none (not_inspects (does_of_rest hrest) b) (by cases hreceives <;> rfl) hsettings
        huptime
  | query hrest => exact h.of_none (not_inspects (does_of_rest hrest) b) rfl hsettings huptime
  | arrive _ haccept =>
      exact h.of_none (not_inspects (does_of_eq rfl) b) (by rw [accept?_eq haccept]; rfl) hsettings
        huptime
  | work hwork =>
      exact h.of_none (not_inspects (does_of_eq rfl) b) (hwork.lastInspection_eq b) hsettings huptime

end World

namespace Life

open Scheduler World

variable {settings : Settings} {permits : Nat} {w w' : World} {past : List World}

/-- Inspections of an instance keep their distance, at every moment. -/
theorem watched (life : Life settings permits (w :: past)) (b : Nat) : w.Watched past b := by
  induction life using Life.induct generalizing b with
  | initial => exact ⟨rfl, fun _ h => absurd h List.not_mem_nil, .nil⟩
  | signalled _ ih => exact (ih b).of_none (not_inspects (does_of_eq rfl) b) rfl rfl (Nat.le_refl _)
  | kept life step ih =>
      exact (ih b).step step (fun c rest => life.exists_of_check) (fun c => (ih c).last_le)
        ((life.step step).steady.1.trans life.steady.1.symm)

end Life

/-! ## What an inspection does -/

namespace World

open Scheduler Run

/-- What the looks at a slot found, the first look first. -/
def sighted (b i : Nat) : List World → List (Option Nat) :=
  gather fun w w' =>
    if w.does w' = some (.inspect b i) then some (w.scheduler.tunnelAt b i) else none

/-- The tunnels that were weighed for a slot, the first one first, and whether each was found
worn while the slot was not being replaced. -/
def judged (b i : Nat) : List World → List (Nat × Bool) :=
  gather fun w w' =>
    match w.does w' with
    | some (.weigh c j t) => if (c, j) = (b, i) then some (t, w.scheduler.findsWorn b i t) else none
    | _ => none

/-- A slot was looked at once, the tunnel found there was weighed once, and a tunnel was asked
for in its place exactly if it was worn. -/
def Examined (b i : Nat) (h : List World) : Prop :=
  ∃ found, sighted b i h = [found] ∧ (judged b i h).map Prod.fst = found.toList ∧
    total (requested b i) h = (judged b i h).countP Prod.snd

/-- An inspection under way, with the tunnel yet to be weighed and the slots yet to be looked
at. -/
structure Examines (b k : Nat) (rest : List Task) (w : World) (past : List World)
    (pending : Option (Nat × Nat)) (left : List Nat) : Prop where
  tasks : w.tasks =
    (pending.map fun x => .weigh b x.1 x.2).toList ++ (left.map (.inspect b) ++ rest)
  looked : ∀ i < k, (sighted b i (w :: past)).length + left.count i = 1
  weighed : ∀ i, (judged b i (w :: past)).map Prod.fst ++
    ((pending.filter fun x => x.1 = i).map Prod.snd).toList = (sighted b i (w :: past)).filterMap id
  asked : ∀ i, total (requested b i) (w :: past) = (judged b i (w :: past)).countP Prod.snd

namespace Examines

variable {b k : Nat} {rest : List Task} {w w' : World} {past : List World}
  {pending : Option (Nat × Nat)} {left : List Nat}

/-- A step in which the scheduler does nothing. -/
theorem idle (h : Examines b k rest w past pending left) (htasks : w'.tasks = w.tasks)
    (hnone : ∀ i, requested b i w w' = 0) : Examines b k rest w' (w :: past) pending left := by
  have hdoes : w.does w' = none := does_of_eq htasks
  have hsighted : ∀ i, sighted b i (w' :: w :: past) = sighted b i (w :: past) := fun i => by
    rw [sighted, gather_cons, hdoes]
    exact List.append_nil _
  have hjudged : ∀ i, judged b i (w' :: w :: past) = judged b i (w :: past) := fun i => by
    rw [judged, gather_cons, hdoes]
    exact List.append_nil _
  have htotal : ∀ i, total (requested b i) (w' :: w :: past) = total (requested b i) (w :: past) :=
    fun i => by rw [total, hnone, Nat.zero_add]
  refine ⟨htasks.trans h.tasks, fun i hi => ?_, fun i => ?_, fun i => ?_⟩
  · rw [hsighted]
    exact h.looked i hi
  · rw [hsighted, hjudged]
    exact h.weighed i
  · rw [htotal, hjudged]
    exact h.asked i

/-- The tunnel that was found is weighed. -/
theorem weigh {i t : Nat} (h : Examines b k rest w past (some (i, t)) left)
    (hnumbered : w.scheduler.Numbered) :
    Examines b k rest (w.after (.weigh b i t) (left.map (.inspect b) ++ rest)) (w :: past) none
      left := by
  have hdoes : w.does (w.after (.weigh b i t) (left.map (.inspect b) ++ rest)) =
      some (.weigh b i t) := does_after h.tasks
  generalize hw' : w.after (.weigh b i t) (left.map (.inspect b) ++ rest) = w' at hdoes
  have hsighted : ∀ j, sighted b j (w' :: w :: past) = sighted b j (w :: past) := fun j => by
    rw [sighted, gather_cons, hdoes]
    exact List.append_nil _
  have hjudged : ∀ j, judged b j (w' :: w :: past) = judged b j (w :: past) ++
      if j = i then [(t, w.scheduler.findsWorn b i t)] else [] := fun j => by
    rw [judged, gather_cons, hdoes]
    by_cases hj : j = i
    · subst hj
      simp
    · simp [hj, Ne.symm hj]
  refine ⟨?_, fun j hj => ?_, fun j => ?_, fun j => ?_⟩
  · rw [← hw', after, perform_weigh]
    rfl
  · rw [hsighted]
    exact h.looked j hj
  · have hold := h.weighed j
    rw [hsighted, hjudged, ← hold]
    by_cases hj : j = i
    · simp [hj, Option.filter_some]
    · simp [hj, Ne.symm hj, Option.filter_some]
  · have hrequested := requested_weigh hnumbered b i t (left.map (.inspect b) ++ rest) b j
    rw [hw'] at hrequested
    rw [total, hrequested, h.asked, hjudged, List.countP_append]
    by_cases hj : j = i
    · subst hj
      cases w.scheduler.findsWorn b j t <;> simp [Nat.add_comm]
    · simp [hj]

/-- The next slot is looked at. -/
theorem look {i : Nat} (h : Examines b k rest w past none (i :: left))
    (hnumbered : w.scheduler.Numbered) :
    Examines b k rest (w.after (.inspect b i) (left.map (.inspect b) ++ rest)) (w :: past)
      ((w.scheduler.tunnelAt b i).map fun t => (i, t)) left := by
  have hdoes : w.does (w.after (.inspect b i) (left.map (.inspect b) ++ rest)) =
      some (.inspect b i) := does_after h.tasks
  have hnone := requested_of_not_asking hnumbered (x := .inspect b i) rfl
    (left.map (.inspect b) ++ rest)
  generalize hw' : w.after (.inspect b i) (left.map (.inspect b) ++ rest) = w' at hdoes hnone
  have hsighted : ∀ j, sighted b j (w' :: w :: past) = sighted b j (w :: past) ++
      if j = i then [w.scheduler.tunnelAt b i] else [] := fun j => by
    rw [sighted, gather_cons, hdoes]
    by_cases hj : j = i
    · subst hj
      simp
    · simp [hj, Ne.symm hj]
  have hjudged : ∀ j, judged b j (w' :: w :: past) = judged b j (w :: past) := fun j => by
    rw [judged, gather_cons, hdoes]
    exact List.append_nil _
  refine ⟨?_, fun j hj => ?_, fun j => ?_, fun j => ?_⟩
  · rw [← hw', after, perform, Option.map_map]
    rfl
  · have hold := h.looked j hj
    rw [hsighted]
    by_cases hji : j = i
    · subst hji
      simp only [List.count_cons_self, if_true, List.length_append, List.length_singleton] at hold ⊢
      omega
    · simpa [hji, Ne.symm hji] using hold
  · have hold := h.weighed j
    rw [Option.filter_none, Option.map_none, Option.toList_none, List.append_nil] at hold
    rw [hsighted, hjudged, hold, List.filterMap_append]
    by_cases hji : j = i
    · subst hji
      cases w.scheduler.tunnelAt b j <;> simp
    · cases w.scheduler.tunnelAt b i <;> simp [hji, Ne.symm hji]
  · rw [total, hnone, hjudged, Nat.zero_add]
    exact h.asked j

/-- An inspection goes on until it is done. -/
theorem step (h : Examines b k rest w past pending left) (step : w.Step w')
    (hnumbered : w.scheduler.Numbered) (hmore : rest.length < w.tasks.length) :
    ∃ pending' left', Examines b k rest w' (w :: past) pending' left' := by
  cases step with
  | @perform task others htasks =>
      have hshape := htasks.symm.trans h.tasks
      cases pending with
      | some x =>
          obtain ⟨rfl, rfl⟩ := List.cons.inj hshape
          exact ⟨_, _, h.weigh hnumbered⟩
      | none =>
          cases left with
          | cons i left =>
              obtain ⟨rfl, rfl⟩ := List.cons.inj hshape
              exact ⟨_, _, h.look hnumbered⟩
          | nil =>
              rw [h.tasks] at hmore
              exact absurd hmore (Nat.lt_irrefl _)
  | receive hrest | query hrest =>
      rw [hrest] at hmore
      exact absurd hmore (Nat.not_lt_zero _)
  | arrive _ haccept =>
      obtain rfl := accept?_eq haccept
      exact ⟨_, _, h.idle rfl (requested_of_same hnumbered rfl b)⟩
  | work hwork =>
      exact ⟨_, _, h.idle rfl
        (requested_eq_zero ((Step.work hwork).numbered hnumbered) hwork.numbers.2 b)⟩

/-- When nothing is left to do of it, every slot was examined. -/
theorem examined (h : Examines b k rest w past pending left) (hdone : w.tasks = rest) {i : Nat}
    (hi : i < k) : Examined b i (w :: past) := by
  have hnone : pending = none ∧ left = [] := by
    have hlength := congrArg List.length (hdone.symm.trans h.tasks)
    simp only [List.length_append, List.length_map, Option.length_toList] at hlength
    cases pending with
    | none => exact ⟨rfl, List.length_eq_zero_iff.1 (by simpa using hlength)⟩
    | some =>
        simp at hlength
        omega
  obtain ⟨rfl, rfl⟩ := hnone
  have hlooked := h.looked i hi
  rw [List.count_nil, Nat.add_zero, List.length_eq_one_iff] at hlooked
  obtain ⟨found, hfound⟩ := hlooked
  refine ⟨found, hfound, ?_, h.asked i⟩
  have hweighed := h.weighed i
  rw [Option.filter_none, Option.map_none, Option.toList_none, List.append_nil] at hweighed
  rw [hweighed, hfound]
  cases found <;> rfl

end Examines

end World

namespace Life

open Scheduler World

variable {settings : Settings} {permits : Nat} {w w₀ w₁ : World} {before : List World} {b : Nat}
  {x : Backend}

/-- An inspection begins with all slots left to be looked at. -/
theorem begins (life : Life settings permits (w₁ :: w₀ :: before)) (hinspects : w₀.Inspects b w₁)
    (hx : w₀.scheduler.fleet.backend? b = some x) :
    Examines b x.slots.length w₀.tasks.tail w₁ [] none (List.range x.slots.length) := by
  refine ⟨?_, fun i hi => ?_, fun _ => rfl, fun _ => rfl⟩
  · cases life with
    | signal => exact absurd hinspects (not_inspects (does_of_eq rfl) b)
    | step life step =>
        obtain ⟨rest, htasks, rfl⟩ := step.of_does hinspects.1
        obtain ⟨-, -, -, hlooks, -⟩ | ⟨-, hno, -⟩ :=
          after_check hx htasks (life.watched b).last_le
        · rw [hlooks, htasks]
          rfl
        · exact absurd hinspects hno
  · exact (Nat.zero_add _).trans (List.count_eq_one_of_mem List.nodup_range (List.mem_range.2 hi))

/-- It goes on as long as its tasks are left to do. -/
theorem examines {recent : List World}
    (life : Life settings permits (w :: (recent ++ w₁ :: w₀ :: before)))
    (hinspects : w₀.Inspects b w₁) (hx : w₀.scheduler.fleet.backend? b = some x)
    (hmore : ∀ v ∈ recent ++ [w₁], w₀.tasks.tail.length < v.tasks.length) :
    ∃ pending left, Examines b x.slots.length w₀.tasks.tail w (recent ++ [w₁]) pending left := by
  -- what holds before the last step, holds after it
  have hstep : ∀ {u v : World} {rest past : List World} {pending left},
      Life settings permits (v :: u :: past) →
      Examines b x.slots.length w₀.tasks.tail u rest pending left →
      w₀.tasks.tail.length < u.tasks.length →
      ∃ pending left, Examines b x.slots.length w₀.tasks.tail v (u :: rest) pending left := by
    intro u v rest past pending left life h hu
    cases life with
    | step life step => exact h.step step life.numbered hu
    | signal life => exact ⟨_, _, h.idle rfl (requested_of_same life.numbered rfl b)⟩
  induction recent generalizing w with
  | nil =>
      exact hstep life (life.earlier.begins hinspects hx) (hmore w₁ List.mem_cons_self)
  | cons u recent ih =>
      obtain ⟨pending, left, h⟩ := ih life.earlier fun v hv => hmore v (List.mem_cons_of_mem u hv)
      exact hstep life h (hmore u List.mem_cons_self)

/-- **An inspection examines every slot**: once its tasks are done, each slot was looked at
once, and a tunnel was asked for in place of the one found there exactly if that was worn. -/
theorem examined {recent : List World}
    (life : Life settings permits (w :: (recent ++ w₁ :: w₀ :: before)))
    (hinspects : w₀.Inspects b w₁) (hx : w₀.scheduler.fleet.backend? b = some x)
    (hmore : ∀ v ∈ recent ++ [w₁], w₀.tasks.tail.length < v.tasks.length)
    (hdone : w.tasks = w₀.tasks.tail) {i : Nat} (hi : i < x.slots.length) :
    Examined b i (w :: (recent ++ [w₁])) := by
  obtain ⟨pending, left, h⟩ := life.examines hinspects hx hmore
  exact h.examined hdone hi

end Life

end StreamBalancer
