import StreamBalancer.Proofs.Interleaving.Inspections
import StreamBalancer.Proofs.Traffic.Lapses

/-!
# StreamBalancer.Proofs.Interleaving.Renewals

Tunnels are replaced before they wear out, and each is so once (`Life.renewed`).

1. Between the look at a slot and the weighing of the tunnel found there others may take the
   tunnel out, but nobody puts another one in (`Life.found`).
2. So the flag of a slot that holds a tunnel was set by an inspection that found this very
   tunnel worn, at a time when none was on its way to the slot (`Life.awaits`).
3. The flag is cleared when another tunnel is put into the slot.  As no tunnel is put into a
   slot twice, each one causes one request at most (`Life.caused`).
4. A tunnel leaves its slot for the one that was asked for in its place, or since it broke, or
   with its instance (`World.Step.stays_or_leaves`).
-/

namespace StreamBalancer

namespace Scheduler

/-- Whether a task is about something that the task before it found. -/
def Task.isFound : Task → Bool
  | .weigh _ _ _ | .mark _ _ => true
  | _ => false

theorem weigh_mem_perform {s : Scheduler} {x : Task} {b i t : Nat}
    (h : .weigh b i t ∈ (s.perform x).2) : x = .inspect b i ∧ s.tunnelAt b i = some t := by
  cases x with
  | inspect c j =>
      obtain ⟨u, hu, heq⟩ := Option.map_eq_some_iff.1 (Option.mem_toList.1 h)
      obtain ⟨rfl, rfl, rfl⟩ := Task.weigh.inj heq
      exact ⟨rfl, hu⟩
  | _ => grind [perform]

theorem mark_mem_perform {s : Scheduler} {x : Task} {b i : Nat} (h : .mark b i ∈ (s.perform x).2) :
    ∃ f : Failure, x = .failure f ∧ f.place = (b, i) ∧ s.holdsAnother b i f.tunnel = false := by
  cases x with
  | inspect c j =>
      obtain ⟨u, hu, heq⟩ := Option.map_eq_some_iff.1 (Option.mem_toList.1 h)
      contradiction
  | failure f =>
      simp only [perform] at h
      split at h
      · contradiction
      · next hheeds =>
        obtain ⟨rfl, rfl⟩ := Task.mark.inj (List.mem_singleton.1 h)
        rw [Bool.or_eq_true, not_or] at hheeds
        exact ⟨f, rfl, rfl, Bool.eq_false_iff.2 hheeds.2⟩
  | _ => grind [perform]

/-- Of the tasks that a task leads to only the first may be about what it found. -/
theorem isFound_perform (s : Scheduler) (x : Task) :
    ∀ y ∈ (s.perform x).2.tail, y.isFound = false := by
  intro y hy
  have hmem := List.mem_of_mem_tail hy
  cases y with
  | weigh b i t =>
      obtain ⟨rfl, ht⟩ := weigh_mem_perform hmem
      rw [perform, ht] at hy
      contradiction
  | mark b i =>
      obtain ⟨f, rfl, -⟩ := mark_mem_perform hmem
      rw [perform] at hy
      split at hy <;> contradiction
  | _ => rfl

/-- No message begins with a task about something that was found. -/
theorem isFound_of_opens {s : Scheduler} {e : Event} {tasks : List Task} (h : s.Opens e tasks) :
    ∀ x ∈ tasks ++ [.publish], x.isFound = false := by
  intro x hx
  cases h with
  | snapshot =>
      obtain ⟨a, rfl⟩ | ⟨a, rfl⟩ | ⟨a, -, rfl⟩ | rfl | rfl := World.Sound.mem_sweep hx <;> rfl
  | _ => grind [Task.isFound]

/-- A slot that holds no other tunnel than the reported one holds that one, if any. -/
theorem tunnelAt_of_holdsAnother {s : Scheduler} {b i tunnel : Nat}
    (h : s.holdsAnother b i tunnel = false) {t : Nat} (ht : s.tunnelAt b i = some t) : t = tunnel := by
  have hslot : ((s.fleet.backend? b).bind fun x => x.tunnel? i) = some t := by
    rw [← ht, tunnelAt, Fleet.tunnelAt, Fleet.slot?, Option.bind_assoc]
    rfl
  rw [holdsAnother, hslot] at h
  simpa using h

end Scheduler

namespace Life

open Scheduler World

variable {settings : Settings} {permits : Nat} {w w' : World} {past : List World}

/-! ## The traffic of a history -/

/-- The scheduler is there, so the steps of the traffic are those that do not end it. -/
theorem drift (life : Life settings permits (w :: past)) (step : w.Step w') :
    w.traffic.Drift w.scheduler.signalled false w'.traffic :=
  life.steady.2 ▸ step.drift life.sound life.apart life.numbered

theorem lapsed (life : Life settings permits (w :: past)) : w.traffic.Lapsed := by
  induction life using Life.induct with
  | initial => exact ⟨0, (Run.settled .start).of_same rfl fun _ _ => rfl⟩
  | signalled _ ih => exact ih
  | kept life step ih => exact ih.drifts (life.drift step)

theorem shut (life : Life settings permits (w :: past)) : w.traffic.Shut := by
  induction life using Life.induct with
  | initial => exact fun _ => Nat.le_refl _
  | signalled _ ih => exact ih
  | kept life step ih => exact ih.drifts life.owned (life.drift step)

end Life

namespace World

open Scheduler

variable {settings : Settings} {permits : Nat} {w w' : World} {past : List World}

/-! ## The slot of a tunnel -/

/-- A tunnel is in a slot, or was there: nobody carries it, and it is in no other slot. -/
structure Rooted (w : World) (b i t : Nat) : Prop where
  bearers : w.traffic.bearers t = 0
  known : t < w.traffic.closes.length
  seat : ∀ c j, w.scheduler.tunnelAt c j = some t → c = b ∧ j = i

theorem bearers_of_handover {h : Handover} (hmem : .handover h ∈ w.tasks) :
    0 < w.traffic.bearers h.tunnel := by
  have hcarried : h ∈ w.traffic.carried :=
    List.mem_append_left _ (List.mem_append_left _ (List.mem_filterMap.2 ⟨_, hmem, rfl⟩))
  exact Multiset.count_pos.2 (Multiset.mem_map_of_mem _ hcarried)

theorem mem_of_does {x : Task} (h : w.does w' = some x) : x ∈ w.tasks := by
  unfold does at h
  split at h
  · contradiction
  · exact List.mem_of_mem_head? h

theorem rooted_of_tunnelAt (life : Life settings permits (w :: past)) {b i t : Nat}
    (ht : w.scheduler.tunnelAt b i = some t) : w.Rooted b i t := by
  obtain ⟨hbearers, hknown⟩ := life.owned.bearers_eq_zero ((tunnelAt_traffic _ _ b i).trans ht)
  exact ⟨hbearers, hknown, fun c j hc => life.seat_unique hc ht⟩

/-- Such a tunnel is not put into a slot. -/
theorem Rooted.not_installs {b i t : Nat} (hrooted : w.Rooted b i t) {h : Handover}
    (hdoes : w.does w' = some (.handover h)) : h.tunnel ≠ t := by
  rintro rfl
  have hpos := bearers_of_handover (mem_of_does hdoes)
  rw [hrooted.bearers] at hpos
  exact absurd hpos (Nat.lt_irrefl 0)

/-- A tunnel gets no other slot. -/
theorem Rooted.step {b i t : Nat} (h : w.Rooted b i t) (life : Life settings permits (w :: past))
    (step : w.Step w') : w'.Rooted b i t := by
  obtain ⟨hbearers, -, hknown⟩ := (life.drift step).rests h.bearers h.known
  refine ⟨hbearers, hknown, fun c j hc => ?_⟩
  obtain hold | ⟨hd, hdoes, -, rfl⟩ := step.tunnelAt_before life.sound life.numbered hc
  · exact h.seat c j hold
  · exact absurd rfl (h.not_installs hdoes)

theorem Rooted.signal {b i t : Nat} (h : w.Rooted b i t) :
    World.Rooted { w with scheduler := w.scheduler.signal } b i t :=
  ⟨h.bearers, h.known, h.seat⟩

/-- Only what is next to be done may be about something that was found. -/
theorem Step.unfound (step : w.Step w') (h : ∀ x ∈ w.tasks.tail, x.isFound = false) :
    ∀ x ∈ w'.tasks.tail, x.isFound = false := by
  cases step with
  | @perform task rest htasks =>
      rw [htasks, List.tail_cons] at h
      have hnew := isFound_perform w.scheduler task
      intro x hx
      dsimp only at hx
      cases htask : (w.scheduler.perform task).2 with
      | nil =>
          rw [htask, List.nil_append] at hx
          exact h x (List.mem_of_mem_tail hx)
      | cons y new =>
          rw [htask, List.tail_cons] at hnew
          rw [htask, List.cons_append, List.tail_cons] at hx
          obtain hx | hx := List.mem_append.1 hx
          · exact hnew x hx
          · exact h x hx
  | receive _ _ hopens => exact fun x hx => isFound_of_opens hopens x (List.mem_of_mem_tail hx)
  | query => exact fun x hx => absurd hx List.not_mem_nil
  | arrive _ haccept => exact h
  | work => exact h

/-- What was found in a slot may be taken out before the scheduler makes use of it, but
nothing else is put there. -/
structure Found (w : World) : Prop where
  weigh : ∀ b i t, .weigh b i t ∈ w.tasks →
    w.Rooted b i t ∧ ∀ u, w.scheduler.tunnelAt b i = some u → u = t
  mark : ∀ b i, .mark b i ∈ w.tasks → w.scheduler.tunnelAt b i = none

theorem Found.of_unfound (h : ∀ x ∈ w.tasks, x.isFound = false) : w.Found where
  weigh _ _ _ hmem := by
    have hno := h _ hmem
    contradiction
  mark _ _ hmem := by
    have hno := h _ hmem
    contradiction

end World

namespace Life

open Scheduler World

variable {settings : Settings} {permits : Nat} {w w' : World} {past : List World}

theorem unfound (life : Life settings permits (w :: past)) :
    ∀ x ∈ w.tasks.tail, x.isFound = false := by
  induction life using Life.induct with
  | initial => exact fun x hx => absurd hx List.not_mem_nil
  | signalled _ ih => exact ih
  | kept _ step ih => exact step.unfound ih

/-- A step in which the scheduler does nothing finds nothing, and puts nothing into a slot. -/
theorem found_idle (life : Life settings permits (w :: past)) (step : w.Step w')
    (htasks : w'.tasks = w.tasks) (h : w.Found) : w'.Found := by
  have hbefore : ∀ {b i t}, w'.scheduler.tunnelAt b i = some t → w.scheduler.tunnelAt b i = some t := by
    intro b i t ht
    obtain hold | ⟨hd, hdoes, -⟩ := step.tunnelAt_before life.sound life.numbered ht
    · exact hold
    · have hnone := hdoes.symm.trans (does_of_eq htasks)
      contradiction
  refine ⟨fun b i t hmem => ?_, fun b i hmem => ?_⟩
  · obtain ⟨hrooted, honly⟩ := h.weigh b i t (htasks ▸ hmem)
    exact ⟨hrooted.step life step, fun u hu => honly u (hbefore hu)⟩
  · refine Option.eq_none_iff_forall_ne_some.2 fun t ht => ?_
    have hnone := (h.mark b i (htasks ▸ hmem)).symm.trans (hbefore ht)
    contradiction

/-- A task finds what is in a slot. -/
theorem found_after (life : Life settings permits (w :: past)) {x : Task} {rest : List Task}
    (htasks : w.tasks = x :: rest) : (w.after x rest).Found := by
  have hrest : ∀ y ∈ rest, y.isFound = false := fun y hy => life.unfound y (htasks ▸ hy)
  refine ⟨fun b i t hmem => ?_, fun b i hmem => ?_⟩
  · obtain hnew | hold := List.mem_append.1 hmem
    · obtain ⟨rfl, ht⟩ := weigh_mem_perform hnew
      refine ⟨(rooted_of_tunnelAt life ht).step life (.perform htasks), fun u hu => ?_⟩
      exact Option.some.inj (hu.symm.trans ht)
    · have hno := hrest _ hold
      contradiction
  · obtain hnew | hold := List.mem_append.1 hmem
    · obtain ⟨f, rfl, hplace, hholds⟩ := mark_mem_perform hnew
      have htold : f ∈ w.traffic.told := List.mem_append_left _
        (List.mem_filterMap.2 ⟨.failure f, htasks ▸ List.mem_cons_self, rfl⟩)
      have hsame : (w.after (.failure f) rest).scheduler.tunnelAt b i = w.scheduler.tunnelAt b i :=
        congrArg (Option.bind · Slot.tunnel) (@slot?_perform w.scheduler (.failure f) rfl b i)
      rw [hsame]
      refine Option.eq_none_iff_forall_ne_some.2 fun t ht => ?_
      obtain rfl := tunnelAt_of_holdsAnother hholds ht
      exact life.shut.tunnelAt_ne life.owned htold b i ((tunnelAt_traffic _ _ b i).trans ht)
    · have hno := hrest _ hold
      contradiction

/-- **What the scheduler found stays found** until it makes use of it. -/
theorem found (life : Life settings permits (w :: past)) : w.Found := by
  induction life using Life.induct with
  | initial => exact .of_unfound fun x hx => absurd hx List.not_mem_nil
  | signalled _ ih => exact ⟨fun b i t hmem => (ih.weigh b i t hmem).imp_left Rooted.signal, ih.mark⟩
  | kept life step ih =>
      cases step with
      | perform htasks => exact life.found_after htasks
      | receive _ _ hopens => exact .of_unfound (isFound_of_opens hopens)
      | query => exact .of_unfound fun x hx => List.mem_singleton.1 hx ▸ rfl
      | arrive hnew haccept => exact life.found_idle (.arrive hnew haccept) rfl ih
      | work hwork => exact life.found_idle (.work hwork) rfl ih

end Life

namespace World

open Scheduler Run

/-! ## Requests for a replacement -/

/-- How often a step asks to replace a tunnel that an inspection found. -/
def causes (t : Nat) (w w' : World) : Nat :=
  match w.does w' with
  | some (.weigh b i u) => if u = t then requested b i w w' else 0
  | _ => 0

/-- An inspection found the tunnel in a slot worn and asked to replace it, when none was on its
way to the slot.  Since then none was asked for, and none was put there. -/
inductive Awaits (b i t : Nat) : List World → Prop where
  | asked {w w' : World} {past : List World} (hdoes : w.does w' = some (.weigh b i t))
      (hthere : w.scheduler.tunnelAt b i = some t)
      (hworn : w.scheduler.settings.policy.highWater < w.scheduler.fleet.nextId t)
      (hnone : w.outstanding b i = 0) (hone : requested b i w w' = 1) : Awaits b i t (w' :: w :: past)
  | waits {w w' : World} {past : List World} (h : Awaits b i t (w :: past))
      (hrequested : requested b i w w' = 0) (hfilled : filled b i w w' = 0) :
      Awaits b i t (w' :: w :: past)

theorem filled_of_eq {w w' : World} {b i : Nat}
    (h : w'.scheduler.tunnelAt b i = w.scheduler.tunnelAt b i) : filled b i w w' = 0 :=
  if_neg fun hno => hno.2 h

end World

namespace Life

open Scheduler World Run

variable {settings : Settings} {permits : Nat} {w w' : World} {past : List World}

/-- No tunnel is on its way to a slot that holds one and is not being replaced. -/
theorem outstanding_eq_zero (life : Life settings permits (w :: past)) {b i : Nat} {x : Slot}
    (hlive : w.scheduler.isRetired b = false) (hx : w.scheduler.slot? b i = some x)
    (hflag : x.replacing = false) (hsome : x.tunnel.isSome = true) : w.outstanding b i = 0 := by
  rw [outstanding_eq]
  exact life.lapsed.outstanding_eq_zero ((live_traffic _ _ b).2 hlive)
    ((slot?_traffic _ _ b i).trans hx) hflag hsome

/-- **A slot that holds a tunnel is being replaced only because an inspection found that tunnel
worn.** -/
theorem awaits (life : Life settings permits (w :: past)) {b i t : Nat}
    (h : w.scheduler.slot? b i = some ⟨some t, true⟩) : Awaits b i t (w :: past) := by
  induction life using Life.induct generalizing b i t with
  | initial => contradiction
  | signalled life ih => exact .waits (ih h) (requested_of_same life.numbered rfl b i) (filled_of_eq rfl)
  | @kept w w' past life step ih =>
      obtain ⟨⟨tunnel, flag⟩, hx, hshift⟩ := step.shift_of_tunnel life.sound life.numbered h
      have htunnel : w.scheduler.tunnelAt b i = tunnel := tunnelAt_of_slot? hx
      cases hshift with
      | keeps hnone =>
          refine .waits (ih hx) hnone (filled_of_eq ?_)
          exact (tunnelAt_of_slot? h).trans htunnel.symm
      | renews hdoes hworn hflag hone =>
          have hmem := mem_of_does hdoes
          obtain rfl := (life.found.weigh b i _ hmem).2 t htunnel
          refine .asked hdoes htunnel ?_ ?_ hone
          · exact of_decide_eq_true (Bool.and_eq_true_iff.1 hworn).1
          · exact life.outstanding_eq_zero (life.sound.live _ hmem b rfl) hx hflag rfl
      | restores hdoes =>
          have hnone := life.found.mark b i (mem_of_does hdoes)
          rw [htunnel] at hnone
          contradiction

end Life

namespace World

open Scheduler Run

variable {settings : Settings} {permits : Nat} {w w' : World} {past : List World} {t : Nat}

/-- A replacement of the tunnel was asked for once.  As long as it is in its slot the slot is
being replaced, and so it is if the tunnel was found there and taken out since. -/
structure Spent (w : World) (past : List World) (t : Nat) : Prop where
  once : total (causes t) (w :: past) = 1
  rooted : ∃ b i, w.Rooted b i t
  flag : ∀ b i flag, w.scheduler.slot? b i = some ⟨some t, flag⟩ → flag = true
  weigh : ∀ b i, .weigh b i t ∈ w.tasks → w.scheduler.isFree b i = false

/-- The helpers set no flag, and clear none. -/
theorem isFree_work {s : Scheduler} (h : w.scheduler.Work s) (b i : Nat) :
    s.isFree b i = w.scheduler.isFree b i := by
  obtain hsame | ⟨reach, r, c, v, -, -, -, hslots⟩ := slot?_work h
  · rw [isFree, hsame, isFree]
  · rw [isFree, hslots, isFree]
    split
    · rw [Option.any_map]
    · rfl

/-- The slot of such a tunnel keeps its flag. -/
theorem Spent.flag_step (h : w.Spent past t) (life : Life settings permits (w :: past))
    (step : w.Step w') (b i : Nat) (flag : Bool)
    (hslot : w'.scheduler.slot? b i = some ⟨some t, flag⟩) : flag = true := by
  obtain ⟨⟨tunnel, old⟩, hx, hshift⟩ := step.shift_of_tunnel life.sound life.numbered hslot
  cases hshift with
  | keeps => exact h.flag b i flag hx
  | renews | restores => rfl
  | installs hdoes =>
      obtain ⟨c, j, hrooted⟩ := h.rooted
      exact absurd rfl (hrooted.not_installs hdoes)

/-- A step that does not ask to replace such a tunnel leaves it at that. -/
theorem Spent.step (h : w.Spent past t) (life : Life settings permits (w :: past))
    (step : w.Step w') (hnone : causes t w w' = 0) : w'.Spent (w :: past) t where
  once := by rw [total, hnone, Nat.zero_add, h.once]
  rooted := by
    obtain ⟨b, i, hrooted⟩ := h.rooted
    exact ⟨b, i, hrooted.step life step⟩
  flag := h.flag_step life step
  weigh b i hmem := by
    have hflag := h.flag_step life step b i
    cases step with
    | @perform task rest htasks =>
        obtain hnew | hold := List.mem_append.1 hmem
        · obtain ⟨rfl, ht⟩ := weigh_mem_perform hnew
          obtain ⟨flag, hx⟩ := exists_slot? ht
          have hset := hflag flag hx
          exact (isFree_of_slot? hx).trans (by rw [hset]; rfl)
        · have hno := life.unfound (.weigh b i t) (htasks ▸ hold)
          contradiction
    | receive _ _ hopens =>
        have hno := isFound_of_opens hopens _ hmem
        contradiction
    | query =>
        have hno := List.mem_singleton.1 hmem
        contradiction
    | arrive _ haccept =>
        obtain rfl := accept?_eq haccept
        exact h.weigh b i hmem
    | work hwork => exact (isFree_work hwork b i).trans (h.weigh b i hmem)

/-- Whoever asks to replace a tunnel does so for the first time. -/
theorem spent_of_causes (life : Life settings permits (w :: past)) (step : w.Step w')
    (hbefore : total (causes t) (w :: past) = 0 ∨ w.Spent past t) (hcauses : causes t w w' ≠ 0) :
    w'.Spent (w :: past) t := by
  unfold causes at hcauses
  split at hcauses
  · next b i u hdoes =>
    split at hcauses
    · next hu =>
      subst hu
      obtain ⟨rest, htasks, rfl⟩ := step.of_does hdoes
      have hmem : .weigh b i u ∈ w.tasks := htasks ▸ List.mem_cons_self
      have hrooted := (life.found.weigh b i u hmem).1.step life step
      have hrequested := requested_weigh life.numbered b i u rest b i
      have hworn : w.scheduler.findsWorn b i u = true := by
        by_contra hno
        rw [hrequested, if_neg fun h => hno h.1] at hcauses
        exact hcauses rfl
      have hzero : total (causes u) (w :: past) = 0 := by
        obtain hzero | hspent := hbefore
        · exact hzero
        · rw [findsWorn, hspent.weigh b i hmem, Bool.and_false] at hworn
          contradiction
      rw [if_pos ⟨hworn, rfl, rfl⟩] at hrequested
      refine ⟨?_, ⟨b, i, hrooted⟩, fun c j flag hslot => ?_, fun c j hmem => ?_⟩
      · rw [total, hzero, causes, hdoes]
        simp [hrequested]
      · obtain ⟨rfl, rfl⟩ := hrooted.seat c j (tunnelAt_of_slot? hslot)
        rw [after, perform_weigh, hworn, if_pos rfl, slot?_ask, if_pos ⟨rfl, rfl⟩,
          Option.map_eq_some_iff] at hslot
        obtain ⟨x, -, heq⟩ := hslot
        exact (Slot.mk.inj heq).2.symm
      · rw [after, perform_weigh] at hmem
        have hno := life.unfound (.weigh c j u) (htasks ▸ hmem)
        contradiction
    · exact absurd rfl hcauses
  · exact absurd rfl hcauses

end World

namespace Life

open Scheduler World Run

variable {settings : Settings} {permits : Nat} {w w' : World} {past : List World}

/-- A tunnel is asked to be replaced never, or once. -/
theorem caused (life : Life settings permits (w :: past)) (t : Nat) :
    total (causes t) (w :: past) = 0 ∨ w.Spent past t := by
  induction life using Life.induct with
  | initial => exact .inl rfl
  | @signalled w past life ih =>
      have hdoes : w.does { w with scheduler := w.scheduler.signal } = none := does_of_eq rfl
      have hnone : causes t w { w with scheduler := w.scheduler.signal } = 0 := by
        rw [causes, hdoes]
      rw [total, hnone, Nat.zero_add]
      refine ih.imp_right fun hspent => ⟨?_, ?_, hspent.flag, hspent.weigh⟩
      · rw [total, hnone, Nat.zero_add, hspent.once]
      · obtain ⟨b, i, hrooted⟩ := hspent.rooted
        exact ⟨b, i, hrooted.signal⟩
  | @kept w w' past life step ih =>
      by_cases hnone : causes t w w' = 0
      · rw [total, hnone, Nat.zero_add]
        exact ih.imp_right fun hspent => hspent.step life step hnone
      · exact .inr (spent_of_causes life step ih hnone)

theorem caused_le_one (life : Life settings permits (w :: past)) (t : Nat) :
    total (causes t) (w :: past) ≤ 1 := by
  obtain hzero | hspent := life.caused t
  · rw [hzero]
    exact Nat.zero_le 1
  · exact Nat.le_of_eq hspent.once

end Life

namespace World

open Scheduler Run

variable {settings : Settings} {permits : Nat} {w w' : World} {past : List World}

/-! ## How a tunnel leaves its slot -/

/-- Why a tunnel is in its slot no more. -/
inductive Leaves (b i t : Nat) (past : List World) (w w' : World) : Prop where
  /-- The one that an inspection asked for in its place is put there. -/
  | replaced {h : Handover} (hdoes : w.does w' = some (.handover h)) (hplace : h.place = (b, i))
      (hnew : w'.scheduler.tunnelAt b i = some h.tunnel) (hawaits : Awaits b i t (w :: past))
  /-- A forward asked it for a stream and was told that it broke. -/
  | broke {reach : ListenAddress → Bool} {r : Nat} {v : Opening.Visit}
      (hsees : w.SeesBreak reach r b v) (hslot : v.slot = i) (htunnel : v.tunnel = t)
      (hstep : w.scheduler.stepForward? reach r = some w'.scheduler)
  /-- Its instance was given up. -/
  | removed (hdead : w.scheduler.gaveUp b)

/-- A tunnel that is put into a slot was on its way there. -/
theorem outstanding_pos {b i : Nat} {h : Handover} (hmem : .handover h ∈ w.tasks)
    (hplace : h.place = (b, i)) : 0 < w.outstanding b i := by
  have hpos : 0 < w.tasks.countP (installsAt b i) :=
    List.countP_pos_iff.2 ⟨_, hmem, beq_iff_eq.2 hplace⟩
  rw [outstanding]
  omega

/-- A tunnel stays in its slot, or there is a reason. -/
theorem Step.stays_or_leaves (step : w.Step w') (life : Life settings permits (w :: past))
    {b i t : Nat} (ht : w.scheduler.tunnelAt b i = some t) :
    w'.scheduler.tunnelAt b i = some t ∨ Leaves b i t past w w' := by
  obtain ⟨flag, hx⟩ := exists_slot? ht
  obtain ⟨x', hx', hshift⟩ := step.shift life.sound life.numbered hx
  have hnow := tunnelAt_of_slot? hx'
  cases hshift with
  | keeps | renews | restores => exact .inl hnow
  | installs hdoes hplace hcurrent =>
      refine .inr (.replaced hdoes hplace hnow (life.awaits ?_))
      cases flag with
      | true => exact hx
      | false =>
          rw [isCurrent_eq life.sound.roster, Bool.not_eq_true'] at hcurrent
          have hnone := life.outstanding_eq_zero hcurrent hx rfl rfl
          exact absurd (outstanding_pos (mem_of_does hdoes) hplace) (by omega)
  | empties _ hdead => exact .inr (.removed hdead)
  | breaks hsees hslot htunnel hstep =>
      exact .inr (.broke hsees hslot (Option.some.inj htunnel).symm hstep)

/-! ## Preventive replacement -/

/-- What is so of the replacement of worn tunnels at a moment of a history. -/
structure Renewed (settings : Settings) (w : World) (past : List World) : Prop where
  /-- Inspections of one instance keep their distance. -/
  spaced : ∀ b, (inspections b (w :: past)).Pairwise fun t u =>
    t + settings.policy.checkInterval ≤ u
  /-- The first thing that follows on a dispatch is its check. -/
  prompt : ∀ w' r b, w.Step w' → w.assigns w' = some (r, b) → ∃ rest, w'.tasks = .check b :: rest
  /-- A check inspects all slots if the last inspection is long enough ago or there was none. -/
  checked : ∀ w' b, w.Step w' → w.does w' = some (.check b) →
    ∃ x, w.scheduler.fleet.backend? b = some x ∧
      (w.Inspects b w' ↔ x.slots ≠ [] ∧ ∀ time ∈ inspections b (w :: past),
        time + settings.policy.checkInterval ≤ w.scheduler.uptime) ∧
      (w.Inspects b w' → w'.tasks = looks b x.slots.length ++ w.tasks.tail)
  /-- When an inspection is done, it asked to replace exactly the worn tunnels. -/
  examined : ∀ recent w₁ w₀ before b x, past = recent ++ w₁ :: w₀ :: before → w₀.Inspects b w₁ →
    w₀.scheduler.fleet.backend? b = some x →
    (∀ v ∈ recent ++ [w₁], w₀.tasks.tail.length < v.tasks.length) → w.tasks = w₀.tasks.tail →
    ∀ i < x.slots.length, Examined b i (w :: (recent ++ [w₁]))
  /-- No tunnel was asked to be replaced twice. -/
  once : ∀ t, total (causes t) (w :: past) ≤ 1
  /-- Each tunnel stays in its slot until its replacement is put there, unless it breaks or
  its instance is given up. -/
  stays : ∀ w' b i t, w.Step w' → w.scheduler.tunnelAt b i = some t →
    w'.scheduler.tunnelAt b i = some t ∨ Leaves b i t past w w'

end World

namespace Life

open Scheduler World Run

variable {settings : Settings} {permits : Nat} {w w' : World} {past : List World}

/-- A check inspects exactly if it is due. -/
theorem checked (life : Life settings permits (w :: past)) (step : w.Step w') {b : Nat}
    (hdoes : w.does w' = some (.check b)) :
    ∃ x, w.scheduler.fleet.backend? b = some x ∧
      (w.Inspects b w' ↔ x.slots ≠ [] ∧ ∀ time ∈ inspections b (w :: past),
        time + settings.policy.checkInterval ≤ w.scheduler.uptime) ∧
      (w.Inspects b w' → w'.tasks = looks b x.slots.length ++ w.tasks.tail) := by
  obtain ⟨rest, htasks, rfl⟩ := step.of_does hdoes
  obtain ⟨x, hx⟩ := life.exists_of_check htasks
  have hwatched := life.watched b
  have hdue := hwatched.due_iff
  rw [life.steady.1] at hdue
  refine ⟨x, hx, ?_⟩
  rw [← hdue]
  obtain ⟨hslots, hlong, hinspects, hlooks, -⟩ | ⟨hno, hnone, -⟩ :=
    after_check hx htasks hwatched.last_le
  · refine ⟨iff_of_true hinspects ⟨hslots, hlong⟩, fun _ => ?_⟩
    rw [hlooks, htasks, List.tail_cons]
  · exact ⟨iff_of_false hnone hno, fun h => absurd h hnone⟩

/-- **Worn tunnels are replaced in time, and once.**  In every history, as long as the
scheduler is there:

* inspections of an instance keep the interval between them, and the check of each dispatch
  inspects all its slots if the last inspection is as long ago, or there was none;
* an inspection asks for a tunnel exactly in place of those that it finds past the
  high-water mark in slots that are not being replaced;
* each tunnel is asked to be replaced by inspections once at most;
* it stays in its slot until the one asked for is put there, unless it breaks or its
  instance is given up. -/
theorem renewed (life : Life settings permits (w :: past)) : w.Renewed settings past where
  spaced b := life.steady.1 ▸ (life.watched b).spaced
  prompt _ _ _ step h := life.check_of_assigns step h
  checked _ _ step hdoes := life.checked step hdoes
  examined _ _ _ _ _ _ hpast hinspects hx hmore hdone _ hi := by
    subst hpast
    exact life.examined hinspects hx hmore hdone hi
  once := life.caused_le_one
  stays _ _ _ _ step ht := step.stays_or_leaves life ht

/-- A tunnel wears out after the first of four requests.  The second one comes too early for an
inspection, the third one leads to a request for another tunnel, and the fourth one comes while
that is being dialed. -/
theorem renewed_of_worn :
    ∃ w w' past, Life ⟨.leastLoaded, false, 1, 8, 1, ⟨5, 10⟩, default⟩ 8 (w :: past) ∧ w.Step w' ∧
      w.Renewed ⟨.leastLoaded, false, 1, 8, 1, ⟨5, 10⟩, default⟩ past ∧
      sentTo 0 (w :: past) = [0, 1, 2, 3] ∧ inspections 0 (w :: past) = [0, 5, 10] ∧
      total (causes 0) (w :: past) = 1 ∧
      w'.scheduler.tunnelAt 0 0 = some 1 ∧ Leaves 0 0 0 past w w' := by
  have begun := @Life.start ⟨.leastLoaded, false, 1, 8, 1, ⟨5, 10⟩, default⟩ 8
  -- a snapshot makes an instance, and its slot gets a tunnel
  have posted := begun.step (.work (.post (.ofHealthy ["a"])))
  have opened := (posted.step
    (.receive rfl (.snapshot rfl) (.snapshot _ (by decide) .rfl .rfl (.inl rfl)))).settle 4
  have looked := (opened.step (step_session 0 0 (by decide +kernel))).step
    (step_session 0 0 (by decide +kernel))
  have dialing := looked.step (step_session 0 0 (by decide +kernel))
  have dialed := dialing.step (.work
    (@Work.dialed _ 0 ⟨0, 0, 0, .dialing 0⟩ {} (by decide +kernel) rfl rfl))
  have handed := dialed.step (step_session 0 0 (by decide +kernel))
  have filled := (handed.step (.receive (by decide +kernel)
    (@Receives.handover _ ⟨0, 0, 0⟩ [] (by decide +kernel)) (.handover _))).settle 4
  -- four requests come
  have accepted := (((filled.step
    (@Step.arrive _ 0 _ (by decide +kernel) (if_neg (by decide +kernel)))).step
    (@Step.arrive _ 1 _ (by decide +kernel) (if_neg (by decide +kernel)))).step
    (@Step.arrive _ 2 _ (by decide +kernel) (if_neg (by decide +kernel)))).step
    (@Step.arrive _ 3 _ (by decide +kernel) (if_neg (by decide +kernel)))
  have first := (accepted.step (.receive (by decide +kernel)
    (@Receives.request _ 0 [1, 2, 3] (by decide +kernel)) (.request 0))).settle 9
  -- the tunnel wears out
  have worn := first.step (.work (.retune 0 11 .grant))
  have second := (worn.step (.receive (by decide +kernel)
    (@Receives.request _ 1 [2, 3] (by decide +kernel)) (.request 1))).settle 9
  have later := second.step (.work
    (@Work.tick _ 0 5 (by decide +kernel) (by decide +kernel)))
  have third := (later.step (.receive (by decide +kernel)
    (@Receives.request _ 2 [3] (by decide +kernel)) (.request 2))).settle 9
  have relooked := (third.step (step_session 0 1 (by decide +kernel))).step
    (step_session 0 1 (by decide +kernel))
  have redialing := relooked.step (step_session 0 1 (by decide +kernel))
  have latest := redialing.step (.work
    (@Work.tick _ 0 10 (by decide +kernel) (by decide +kernel)))
  have fourth := (latest.step (.receive (by decide +kernel)
    (@Receives.request _ 3 [] (by decide +kernel)) (.request 3))).settle 9
  -- the other tunnel is put into the slot
  have redialed := fourth.step (.work
    (@Work.dialed _ 1 ⟨1, 0, 0, .dialing 0⟩ {} (by decide +kernel) rfl rfl))
  have rehanded := redialed.step (step_session 0 1 (by decide +kernel))
  have replaced := rehanded.step (.receive (by decide +kernel)
    (@Receives.handover _ ⟨0, 0, 1⟩ [] (by decide +kernel)) (.handover _))
  obtain hstays | hleaves := replaced.renewed.stays _ 0 0 0 (step_next (by decide +kernel))
    (by decide +kernel)
  · exact absurd hstays (by decide +kernel)
  · exact ⟨_, _, _, replaced, step_next (by decide +kernel), replaced.renewed, by decide +kernel,
      by decide +kernel, by decide +kernel, by decide +kernel, hleaves⟩

end Life

end StreamBalancer
