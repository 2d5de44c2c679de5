import StreamBalancer.Proofs.Interleaving.Transit
import StreamBalancer.Proofs.Traffic.Supply

/-!
# StreamBalancer.Proofs.Interleaving.Supply

Slots of known instances are neither forgotten nor asked for twice
(`Run.slots_attended`).
-/

namespace StreamBalancer

/-- The slot that a session works for. -/
def Session.place (x : Session) : Nat × Nat := (x.backend, x.slot)

namespace World

open Scheduler

/-! ## What is on its way -/

/-- Whether a task is about to install a tunnel into a slot. -/
def installsAt (b i : Nat) : Task → Bool
  | .handover h => h.place == (b, i)
  | _ => false

/-- The tunnels that are on their way to a slot: sessions that work for it, tunnels
handed over for it, and one that is being handed over at this moment. -/
def outstanding (w : World) (b i : Nat) : Nat :=
  w.scheduler.sessions.countP (fun x => x.place == (b, i)) +
    w.scheduler.handovers.countP (fun h => h.place == (b, i)) + w.tasks.countP (installsAt b i)

/-- A report that a tunnel of the slot broke is queued, or is yet to be sent by the
forward that took the tunnel out. -/
def Announced (w : World) (b i : Nat) : Prop :=
  ∃ f : Failure, f.place = (b, i) ∧ (f ∈ w.scheduler.fleet.failures ∨
    ∃ g ∈ w.scheduler.forwards, g.stage.taken? = some f ∨ g.stage.owed? = some f)

/-- The scheduler is handling a report that a tunnel of the slot broke. -/
def Heeded (w : World) (b i : Nat) : Prop :=
  (∃ f : Failure, f.place = (b, i) ∧ .failure f ∈ w.tasks) ∨ .mark b i ∈ w.tasks

/-- How many tunnels a step asks for, for a slot: the sessions for it that have a
number which was not given before. -/
def requested (b i : Nat) (w w' : World) : Nat :=
  w'.scheduler.sessions.countP fun x =>
    w.scheduler.sessionCount ≤ x.number && x.place == (b, i)

/-- How many tunnels a step puts into a slot. -/
def filled (b i : Nat) (w w' : World) : Nat :=
  if (w'.scheduler.tunnelAt b i).isSome ∧ w'.scheduler.tunnelAt b i ≠ w.scheduler.tunnelAt b i
  then 1 else 0

/-- Counting in a list does not depend on how its elements are compared. -/
theorem coe_count {α : Type} [DecidableEq α] [BEq α] [LawfulBEq α] (l : List α) (a : α) :
    (l : Multiset α).count a = l.countP (· == a) := by
  refine (Multiset.coe_countP _ l).trans ?_
  apply List.countP_congr
  intro x _
  rw [decide_eq_true_iff, beq_iff_eq, eq_comm]

theorem countP_handovers (tasks : List Task) (b i : Nat) :
    (tasks.filterMap Task.handover?).countP (fun h => h.place == (b, i)) =
      tasks.countP (installsAt b i) := by
  induction tasks with
  | nil => rfl
  | cons task rest ih =>
      cases task with
      | handover h =>
          change (h :: rest.filterMap Task.handover?).countP _ = _
          rw [List.countP_cons, List.countP_cons, ih]
          rfl
      | _ => exact ih

/-- A session has a tunnel or looks for one. -/
theorem countP_sessions (l : List Session) (b i : Nat) :
    (l.filterMap Session.seeks?).countP (· == (b, i)) +
        (l.filterMap Session.handover?).countP (fun h => h.place == (b, i)) =
      l.countP fun x => x.place == (b, i) := by
  induction l with
  | nil => rfl
  | cons x rest ih =>
      obtain ⟨n, c, j, stage⟩ := x
      cases stage with
      | established t =>
          change (rest.filterMap Session.seeks?).countP _ +
            (⟨c, j, t⟩ :: rest.filterMap Session.handover?).countP _ = _
          rw [List.countP_cons, List.countP_cons, ← ih, Nat.add_assoc]
          rfl
      | idle | retained | cleared | dialing | waiting =>
          change ((c, j) :: rest.filterMap Session.seeks?).countP _ +
            (rest.filterMap Session.handover?).countP _ = _
          rw [List.countP_cons, List.countP_cons, ← ih, Nat.add_right_comm]
          rfl

theorem outstanding_eq (w : World) (b i : Nat) : w.outstanding b i = w.traffic.outstanding b i := by
  have hsessions := countP_sessions w.scheduler.sessions b i
  have htasks := countP_handovers w.tasks b i
  have hseeking : w.traffic.seeking.count (b, i) =
      (w.scheduler.sessions.filterMap Session.seeks?).countP (· == (b, i)) := coe_count _ _
  have hcarried : (w.traffic.carried.map Handover.place).count (b, i) =
      ((w.tasks.filterMap Task.handover? ++ w.scheduler.handovers ++
        w.scheduler.sessions.filterMap Session.handover?).map Handover.place).countP (· == (b, i)) :=
    coe_count _ _
  rw [List.countP_map, List.countP_append, List.countP_append] at hcarried
  simp only [Function.comp_def] at hcarried
  rw [outstanding, Traffic.outstanding]
  omega

theorem filled_eq (b i : Nat) (w w' : World) :
    filled b i w w' = Traffic.filled b i w.traffic w'.traffic := by
  rw [filled, Traffic.filled, traffic, traffic, tunnelAt_traffic, tunnelAt_traffic]

/-- Whoever does not count as outstanding has reported. -/
theorem announced_or_heeded {w : World} {b i : Nat} (h : 0 < w.traffic.reports b i) :
    w.Announced b i ∨ w.Heeded b i := by
  have hmem : (b, i) ∈ w.traffic.taken.map Failure.place ∨
      (b, i) ∈ w.traffic.owed.map Failure.place ∨ (b, i) ∈ w.traffic.told.map Failure.place ∨
        (b, i) ∈ w.traffic.marks := by
    simp only [← Multiset.count_pos]
    rw [Traffic.reports] at h
    omega
  obtain htaken | howed | htold | hmark := hmem
  · obtain ⟨f, hf, hplace⟩ := Multiset.mem_map.1 htaken
    obtain ⟨g, hg, hstage⟩ := List.mem_filterMap.1 hf
    exact .inl ⟨f, hplace, .inr ⟨g, hg, .inl hstage⟩⟩
  · obtain ⟨f, hf, hplace⟩ := Multiset.mem_map.1 howed
    obtain ⟨g, hg, hstage⟩ := List.mem_filterMap.1 hf
    exact .inl ⟨f, hplace, .inr ⟨g, hg, .inr hstage⟩⟩
  · obtain ⟨f, hf, hplace⟩ := Multiset.mem_map.1 htold
    obtain hf | hf := List.mem_append.1 hf
    · obtain ⟨task, htask, hfailure⟩ := List.mem_filterMap.1 hf
      cases task with
      | failure g => exact .inr (.inl ⟨f, hplace, Option.some.inj hfailure ▸ htask⟩)
      | _ => contradiction
    · exact .inl ⟨f, hplace, .inl hf⟩
  · obtain ⟨task, htask, hplace⟩ := List.mem_filterMap.1 hmark
    cases task with
    | mark c j =>
        obtain ⟨rfl, rfl⟩ := Prod.mk.inj (Option.some.inj hplace)
        exact .inr (.inr htask)
    | _ => contradiction

/-! ## What is asked for -/

variable {settings : Settings} {permits : Nat} {w w' : World} {past : List World}

/-- A step that gives out no number asks for nothing. -/
theorem requested_eq_zero (h : w'.scheduler.Numbered)
    (hcount : w'.scheduler.sessionCount = w.scheduler.sessionCount) (b i : Nat) :
    requested b i w w' = 0 := by
  rw [requested, List.countP_eq_zero]
  intro x hx
  have hlt := h.2 x hx
  simp only [Bool.and_eq_true, decide_eq_true_eq, not_and]
  omega

/-- The sessions with new numbers look for a tunnel. -/
theorem Step.requested_le (run : Run settings permits (w :: past)) (h : w.Step w') (b i : Nat) :
    requested b i w w' ≤ Traffic.asked b i w.traffic w'.traffic := by
  have hnumbered := (run.step h).sessions_numbered
  have hquiet : w'.scheduler.sessionCount = w.scheduler.sessionCount →
      requested b i w w' ≤ Traffic.asked b i w.traffic w'.traffic := by
    intro hcount
    rw [requested_eq_zero hnumbered hcount]
    exact Nat.zero_le _
  cases h with
  | receive _ hreceives => exact hquiet hreceives.sessions_eq.2
  | query => exact hquiet rfl
  | arrive _ haccept =>
      obtain rfl := accept?_eq haccept
      exact hquiet rfl
  | work h => exact hquiet h.numbers.2
  | @perform task rest htasks =>
      obtain ⟨c, slots, hsessions, -⟩ := sessions_perform w.scheduler task
      have hold : w.scheduler.sessions.countP (fun x =>
          w.scheduler.sessionCount ≤ x.number && x.place == (b, i)) = 0 :=
        requested_eq_zero run.sessions_numbered rfl b i
      have hnew : (newSessions c w.scheduler.sessionCount slots).countP (fun x =>
          w.scheduler.sessionCount ≤ x.number && x.place == (b, i)) ≤
            ((newSessions c w.scheduler.sessionCount slots).filterMap Session.seeks?).countP
              (· == (b, i)) := by
        have hseeks := filterMap_newSessions c w.scheduler.sessionCount slots
        have hall := countP_sessions (newSessions c w.scheduler.sessionCount slots) b i
        rw [hseeks.2, List.countP_nil, Nat.add_zero] at hall
        rw [hall]
        exact List.countP_mono_left fun x _ hx => (Bool.and_eq_true_iff.1 hx).2
      have hseeking : ∀ v : World, v.traffic.seeking.count (b, i) =
          (v.scheduler.sessions.filterMap Session.seeks?).countP (· == (b, i)) :=
        fun v => coe_count _ _
      rw [requested, Traffic.asked, hseeking, hseeking, hsessions, List.countP_append,
        List.filterMap_append, List.countP_append]
      omega

end World

namespace Run

open Scheduler World

variable {settings : Settings} {permits : Nat} {w : World} {past : List World}

theorem balance (run : Run settings permits (w :: past)) (b i : Nat) :
    w.traffic.Balance b i
      (total (fun w w' => Traffic.asked b i w.traffic w'.traffic) (w :: past))
      (total (filled b i) (w :: past)) := by
  induction run using Run.induct with
  | initial => exact ⟨fun _ => rfl, fun _ _ => Nat.zero_le _, Nat.zero_le _⟩
  | @kept w w' past run step ih =>
      have hmoves := ih.moves run.settled run.owned (step.move run)
      rw [← filled_eq, Nat.add_comm, Nat.add_comm (total _ _) (filled b i w w')] at hmoves
      exact hmoves

/-- **Slots are neither forgotten nor asked for twice.**  At every moment of every
history, at most one tunnel is on its way to each slot of each known instance.  If
the slot's flag is set, there is one.  If the slot is empty, there is one, or a
report of the tunnel taken out is announced, or the scheduler is handling one.  So a
slot is asked a tunnel for at most once more than it gets one. -/
theorem slots_attended (run : Run settings permits (w :: past)) :
    (∀ a b i x, w.scheduler.tracked? a = some b → w.scheduler.slot? b i = some x →
      w.outstanding b i ≤ 1 ∧
      (x.replacing = true → w.outstanding b i = 1) ∧
      (x.tunnel = none → w.outstanding b i = 1 ∨ w.Announced b i ∨ w.Heeded b i)) ∧
    ∀ b i, total (requested b i) (w :: past) ≤ total (filled b i) (w :: past) + 1 := by
  refine ⟨fun a b i x htracked hslot => ?_, fun b i => ?_⟩
  · have hlive : w.traffic.Live b :=
      (live_traffic _ _ b).2 ((tracked_iff run.sound.roster a b).1 htracked).1
    have hattended := run.settled.attended b i x hlive ((slot?_traffic _ _ b i).trans hslot)
    rw [← outstanding_eq] at hattended
    refine ⟨hattended.le_one, hattended.replacing, fun hempty => ?_⟩
    cases hflag : x.replacing with
    | true => exact .inl (hattended.replacing hflag)
    | false =>
        obtain hnone | hpos := Nat.eq_zero_or_pos (w.traffic.reports b i)
        · exact .inl (hattended.vacant hflag hempty hnone)
        · exact .inr (announced_or_heeded hpos)
  · have hasked := run.total_le (fun run step => step.requested_le run b i)
    exact Nat.le_trans hasked (run.balance b i).bound

/-- A history in which an instance was added: its slot is empty and a tunnel is on its
way there, the only one that was asked for. -/
theorem slots_attended_of_arrival :
    ∃ w past, Run ⟨.leastLoaded, false, 1, 1, 1, ⟨0, 0⟩, default⟩ 1 (w :: past) ∧
      w.scheduler.tracked? "a" = some 0 ∧ w.scheduler.slot? 0 0 = some {} ∧
      w.outstanding 0 0 = 1 ∧ total (requested 0 0) (w :: past) = 1 := by
  have begun := @Run.start ⟨.leastLoaded, false, 1, 1, 1, ⟨0, 0⟩, default⟩ 1
  have posted := begun.step (.work (.post (.ofHealthy ["a"])))
  have opened := posted.step
    (.receive rfl (.snapshot rfl) (.snapshot _ (by decide) .rfl .rfl (.inl rfl)))
  have revived := opened.step (step_next (by decide +kernel))
  have arrived := revived.step (step_next (by decide +kernel))
  have hslots := slots_attended arrived
  have htracked := hslots.1 "a" 0 0 {} (by decide +kernel) (by decide +kernel)
  refine ⟨_, _, arrived, by decide +kernel, by decide +kernel, ?_, ?_⟩
  · exact Nat.le_antisymm htracked.1 (by decide +kernel)
  · exact Nat.le_antisymm (hslots.2 0 0) (by decide +kernel)

end Run

end StreamBalancer
