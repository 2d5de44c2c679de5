import StreamBalancer.Proofs.Interleaving.Books
import StreamBalancer.Proofs.Interleaving.Ownership
import StreamBalancer.Proofs.Interleaving.Stretch
import StreamBalancer.Proofs.Interleaving.Tenure

/-!
# StreamBalancer.Proofs.Interleaving.Teardown

What is left when the scheduler is gone.

1. A history goes on after the scheduler has left its loop (`Tenure.History`).  Requests arrive
   as long as their queue is there.
2. A scheduler that has left its loop only gives things up, and all that it knows is about to be
   given up (`World.Clearing`).  So once it is gone nothing is known, nothing waits, and all
   instances were given up (`Scheduler.Emptied`).
3. Every step is a step of the traffic, also of tunnels that were handed over to a scheduler that
   is gone (`Tenure.Step.drift`).  Nobody has those, and nobody closes them
   (`Tenure.abandoned`).
4. Once the sessions have ended as well, each of the other tunnels was closed once
   (`Tenure.History.torn_down`).
-/

namespace StreamBalancer

open Scheduler

/-! ## Giving up -/

namespace World

/-- What is left to do is to give things up, among them all that is known. -/
structure Clearing (w : World) : Prop where
  tidying : ∀ x ∈ w.tasks, x.isTidying = true
  removing : ∀ a, w.scheduler.tracked? a ≠ none → .remove a ∈ w.tasks

namespace Clearing

variable {w : World}

/-- Whoever leaves tasks and tables alone leaves it at that. -/
theorem of_same (h : w.Clearing) {w' : World} (htasks : w'.tasks = w.tasks)
    (hroster : w'.scheduler.roster = w.scheduler.roster) : w'.Clearing where
  tidying := htasks ▸ h.tidying
  removing a ha := htasks ▸ h.removing a fun hnone =>
    ha ((congrArg (Roster.tracked? · a) hroster).trans hnone)

theorem next (h : w.Clearing) (hsound : w.Sound) (hne : w.tasks ≠ []) : w.next.Clearing := by
  unfold World.next
  split
  · contradiction
  · next x rest htasks =>
    have hx : x.isTidying = true := h.tidying x (htasks ▸ List.mem_cons_self)
    constructor
    · intro y hy
      obtain hnew | hrest := List.mem_append.1 hy
      · exact (leads_perform hsound.roster x y hnew).tidying hx
      · exact h.tidying y (htasks ▸ List.mem_cons_of_mem x hrest)
    · intro a ha
      have hold : w.scheduler.tracked? a ≠ none := fun hnone =>
        ha (hsound.tracked?_perform htasks hnone fun heq => by rw [heq] at hx; contradiction)
      have hmem := h.removing a hold
      rw [htasks] at hmem
      obtain rfl | hrest := List.mem_cons.1 hmem
      · exact absurd (tracked?_perform_remove hsound.roster a) ha
      · exact List.mem_append_right _ hrest

/-- Leaving, the scheduler is to remove every address that it knows. -/
theorem of_leave {addresses : List String}
    (h : addresses.Perm (w.scheduler.schedulable.addresses ++ w.scheduler.connecting.addresses)) :
    World.Clearing { w with tasks := addresses.map .remove } where
  tidying x hx := by
    obtain ⟨a, -, rfl⟩ := List.mem_map.1 hx
    rfl
  removing a ha := by
    refine List.mem_map_of_mem (h.mem_iff.2 ?_)
    -- no address that is known is missing, as if none was healthy
    have hgone : a ∈ w.scheduler.gone [] := mem_gone ha List.not_mem_nil
    exact (List.mem_filter.1 hgone).1

/-- With nothing left to do, nothing is known. -/
theorem tracked?_eq_none (h : w.Clearing) (hrest : w.tasks = []) (a : String) :
    w.scheduler.tracked? a = none := by
  by_contra hne
  have hmem := h.removing a hne
  rw [hrest] at hmem
  contradiction

end Clearing

end World

/-- A directory in which nothing is found is empty. -/
theorem Directory.entries_eq_nil {d : Directory} (h : ∀ a, d.find? a = none) : d.entries = [] := by
  have haddresses : d.addresses = [] :=
    List.eq_nil_iff_forall_not_mem.2 fun a => (d.find?_eq_none_iff a).1 (h a)
  exact List.map_eq_nil_iff.1 haddresses

namespace Roster

/-- If no address is known, no instance is in the pool, and all were given up. -/
theorem Sound.of_untracked {most : Nat} {r : Roster} (hsound : r.Sound most)
    (h : ∀ a, r.tracked? a = none) :
    r.pool.items = #[] ∧ ∀ x ∈ r.identities, x.retired = true := by
  constructor
  · refine Array.eq_empty_iff_forall_not_mem.2 fun b hb => ?_
    obtain ⟨a, ha⟩ := hsound.pooled b hb
    have hnone := h a
    rw [tracked_of_schedulable ha] at hnone
    contradiction
  · intro x hx
    obtain ⟨b, hb⟩ := List.mem_iff_getElem?.1 hx
    by_contra hlive
    have hsome := (hsound.tracked_iff x.address b).2 ⟨x, hb, rfl, Bool.eq_false_iff.2 hlive⟩
    rw [h] at hsome
    contradiction

end Roster

namespace Scheduler

/-- A scheduler that knows nobody and serves nobody. -/
structure Emptied (s : Scheduler) : Prop where
  /-- No address is known. -/
  schedulable : s.schedulable.entries = []
  connecting : s.connecting.entries = []
  /-- No instance is in the pool. -/
  pool : s.pool.items = #[]
  /-- No request waits. -/
  pending : s.pending = []
  /-- Every instance that ever was was given up, and its slots are empty. -/
  retired : ∀ b x, s.fleet.backend? b = some x → x.retired = true ∧ ∀ y ∈ x.slots, y.tunnel = none

/-- Whoever hands a tunnel over to a scheduler that is gone leaves no message. -/
theorem Work.handovers_of_stopped {s t : Scheduler} (h : s.Work t) (hstopped : s.stopped = true) :
    t.handovers = s.handovers := by
  cases h with
  | post | dialed | undialed | retune | tick => rfl
  | session h =>
      obtain ⟨x, -, hmoves⟩ := stepSession?_cases h
      cases hmoves with
      | hands =>
          rw [handOver, if_pos (by exact hstopped)]
          rfl
      | ends | goes => rfl
  | spliced moved h =>
      obtain ⟨g, outcome, heq, -⟩ := endSplice_eq h moved
      rw [heq]
      rfl
  | forward reach h =>
      obtain ⟨f, -, hmoves⟩ := stepForward?_cases h
      cases hmoves with
      | advances | releases => rfl
      | reports => exact report_keeps handovers (fun _ _ _ _ => rfl) _ _

/-- Helpers start no forward. -/
theorem Work.routes_sublist {s t : Scheduler} (h : s.Work t) : t.routes.Sublist s.routes := by
  cases h with
  | post | dialed | undialed | retune | tick => exact .refl _
  | session h =>
      obtain ⟨x, -, hmoves⟩ := stepSession?_cases h
      cases hmoves with
      | hands =>
          unfold handOver
          split <;> exact .refl _
      | ends | goes => exact .refl _
  | spliced moved h =>
      obtain ⟨g, outcome, heq, -⟩ := endSplice_eq h moved
      rw [heq, World.routes_setForward]
      exact .refl _
  | forward reach h =>
      obtain ⟨f, -, hmoves⟩ := stepForward?_cases h
      cases hmoves with
      | advances | releases =>
          rw [World.routes_setForward]
          exact .refl _
      | reports =>
          rw [report_keeps routes fun _ _ _ _ => rfl]
          exact List.filter_sublist.map _

end Scheduler

namespace Tenure

variable {c c' : Tenure}

/-! ## What a step keeps -/

/-- The scheduler has left its loop and has nothing left to do. -/
def Over (c : Tenure) : Prop :=
  c.leaving = true ∧ c.world.tasks = [] ∧ c.world.scheduler.pending = []

/-- What is true of the scheduler at every moment. -/
structure Orderly (c : Tenure) : Prop where
  sound : c.world.Sound
  apart : c.world.Apart
  numbered : c.world.scheduler.Numbered
  clearing : c.leaving = true → c.world.Clearing
  gone : c.world.scheduler.stopped = true → c.Over

theorem Step.numbered (step : c.Step c') (h : c.world.scheduler.Numbered) :
    c'.world.scheduler.Numbered := by
  cases step with
  | perform hne => exact (World.step_next hne).numbered h
  | receive _ hrest hreceives hopens => exact (World.Step.receive hrest hreceives hopens).numbered h
  | work hwork => exact (World.Step.work hwork).numbered h
  | query | signal | leave | clear | close | lose | shut | discard => exact h
  | @forget f rest =>
      have hkept := report_keeps (fun s => (s.sessions, s.sessionCount)) (fun _ _ _ _ => rfl)
        { c.world.scheduler with outcomes := rest } f
      obtain ⟨hsessions, hcount⟩ := Prod.mk.inj hkept
      refine h.of_sublist ?_ hcount
      rw [become, hsessions]

theorem Step.clearing (step : c.Step c') (h : c.Orderly) (hleaving : c'.leaving = true) :
    c'.world.Clearing := by
  cases step with
  | perform hne => exact (h.clearing hleaving).next h.sound hne
  | receive hloop | query hloop =>
      have hstays : c.leaving = true := hleaving
      rw [hloop] at hstays
      contradiction
  | leave _ _ _ haddresses => exact .of_leave haddresses
  | work hwork => exact (h.clearing hleaving).of_same rfl hwork.roster_eq
  | signal | clear | close | lose | shut | discard => exact (h.clearing hleaving).of_same rfl rfl
  | forget =>
      exact (h.clearing hleaving).of_same rfl (report_keeps Scheduler.roster (fun _ _ _ _ => rfl) _ _)

/-- A scheduler that is gone does nothing more. -/
theorem Step.gone (step : c.Step c') (h : c.Orderly) (hstopped : c'.world.scheduler.stopped = true) :
    c'.Over := by
  cases step with
  | perform hne =>
      have hfixed : c.world.next.scheduler.fixed = c.world.scheduler.fixed := by
        unfold World.next
        split
        · rfl
        · exact fixed_perform _ _
      have hgone : c.world.scheduler.stopped = true :=
        (congrArg (·.2.2) hfixed).symm.trans hstopped
      exact absurd (h.gone hgone).2.1 hne
  | receive hloop _ hreceives =>
      have hgone := (congrArg (·.2.2) hreceives.fixed_eq).symm.trans hstopped
      have hleft := (h.gone hgone).1
      rw [hloop] at hleft
      contradiction
  | query hloop | leave hloop =>
      have hleft := (h.gone hstopped).1
      rw [hloop] at hleft
      contradiction
  | work hwork =>
      have hgone := (congrArg (·.2.2) hwork.fixed_eq).symm.trans hstopped
      obtain ⟨hleft, hrest, hpending⟩ := h.gone hgone
      exact ⟨hleft, hrest, (congrArg Prod.snd hwork.waiting_eq).trans hpending⟩
  | signal | lose | shut | discard => exact h.gone hstopped
  | clear _ _ hwaiting =>
      have hnone := (h.gone hstopped).2.2
      rw [hwaiting] at hnone
      contradiction
  | close hleaving hrest hpending => exact ⟨hleaving, hrest, hpending⟩
  | @forget f rest hgone =>
      obtain ⟨hleft, hrest, hpending⟩ := h.gone hgone
      refine ⟨hleft, hrest, Eq.trans ?_ hpending⟩
      exact report_keeps pending (fun _ _ _ _ => rfl) { c.world.scheduler with outcomes := rest } f

theorem Orderly.step (h : c.Orderly) (step : c.Step c') : c'.Orderly := by
  have hkeeps := step.keeps h.sound h.apart
  exact ⟨hkeeps.sound, hkeeps.apart, step.numbered h.numbered, step.clearing h, step.gone h⟩

/-- Once it is gone, the scheduler stays so and starts no forward. -/
theorem Step.of_stopped (step : c.Step c') (h : c.Orderly)
    (hstopped : c.world.scheduler.stopped = true) :
    c'.world.scheduler.stopped = true ∧
      c'.world.scheduler.routes.Sublist c.world.scheduler.routes := by
  obtain ⟨hleft, hrest, -⟩ := h.gone hstopped
  cases step with
  | perform hne => exact absurd hrest hne
  | receive hloop =>
      rw [hloop] at hleft
      contradiction
  | work hwork => exact ⟨(congrArg (·.2.2) hwork.fixed_eq).trans hstopped, hwork.routes_sublist⟩
  | query | signal | leave | clear | lose | shut | discard => exact ⟨hstopped, .refl _⟩
  | close => exact ⟨rfl, .refl _⟩
  | @forget f rest =>
      have hkept := report_keeps (fun s => (s.stopped, s.routes)) (fun _ _ _ _ => rfl)
        { c.world.scheduler with outcomes := rest } f
      obtain ⟨hsame, hroutes⟩ := Prod.mk.inj hkept
      rw [become, hsame, hroutes]
      exact ⟨hstopped, .refl _⟩

/-! ## Tunnels -/

/-- Tunnels that a step takes from the queue of a scheduler that is gone. -/
def Loses (c c' : Tenure) (lost : List Handover) : Prop :=
  if c.world.scheduler.stopped then c.world.scheduler.handovers = lost ++ c'.world.scheduler.handovers
  else lost = []

theorem loses_nil (h : c.world.scheduler.stopped = true →
    c'.world.scheduler.handovers = c.world.scheduler.handovers) : c.Loses c' [] := by
  unfold Loses
  split
  · next hstopped => exact (h hstopped).symm
  · rfl

/-- Messages that are lost are as if carried by somebody who never moves. -/
theorem drift_lose (s : Scheduler) (tasks : List Task) (hstopped : s.stopped = true) :
    (s.traffic tasks).Drift s.signalled s.stopped
      ((({ s with snapshots := [], handovers := [], fleet := { s.fleet with failures := [] } } :
        Scheduler).traffic tasks).abandon s.handovers) := by
  let t : Scheduler :=
    { s with snapshots := [], handovers := [], fleet := { s.fleet with failures := [] } }
  have hbefore : s.traffic tasks = { (t.traffic tasks).abandon s.handovers with
      told := s.fleet.failures + ((t.traffic tasks).abandon s.handovers).told } := by
    ext1
    case carried =>
      simp only [traffic, Traffic.abandon, t, Multiset.coe_add, List.append_nil, List.append_assoc]
      exact Multiset.coe_eq_coe.2 (List.perm_append_comm_assoc ..)
    case told =>
      simp only [traffic, Traffic.abandon, t, Multiset.coe_add, List.append_nil]
      exact Multiset.coe_eq_coe.2 List.perm_append_comm
    all_goals rfl
  rw [hbefore]
  exact .forgets _ _ hstopped

/-- **A step of anybody is a step of the traffic**, with the tunnels that it loses. -/
theorem Step.drift (step : c.Step c') (h : c.Orderly) :
    ∃ lost, c.Loses c' lost ∧
      c.world.traffic.Drift c.world.scheduler.signalled c.world.scheduler.stopped
        (c'.world.traffic.abandon lost) := by
  have hplain : ∀ {c' : Tenure}, (c.world.scheduler.stopped = true →
        c'.world.scheduler.handovers = c.world.scheduler.handovers) →
      c.world.traffic.Drift c.world.scheduler.signalled c.world.scheduler.stopped c'.world.traffic →
      ∃ lost, c.Loses c' lost ∧ c.world.traffic.Drift c.world.scheduler.signalled
        c.world.scheduler.stopped (c'.world.traffic.abandon lost) := by
    intro c' hsame hdrift
    refine ⟨[], loses_nil hsame, ?_⟩
    rw [Multiset.coe_nil, Traffic.abandon_zero]
    exact hdrift
  cases step with
  | perform hne =>
      refine hplain (fun hstopped => absurd (h.gone hstopped).2.1 hne) ?_
      exact (World.step_next hne).drift h.sound h.apart h.numbered
  | receive hloop hrest hreceives hopens =>
      refine hplain (fun hstopped => ?_) ?_
      · have hleft := (h.gone hstopped).1
        rw [hloop] at hleft
        contradiction
      · exact (World.Step.receive hrest hreceives hopens).drift h.sound h.apart h.numbered
  | query hloop hrest =>
      exact hplain (fun _ => rfl) ((World.Step.query hrest).drift h.sound h.apart h.numbered)
  | work hwork =>
      exact hplain hwork.handovers_of_stopped
        ((World.Step.work hwork).drift h.sound h.apart h.numbered)
  | signal | clear | close | shut | discard => exact hplain (fun _ => rfl) (.moves (.same _))
  | @leave addresses _ hrest =>
      refine hplain (fun _ => rfl) ?_
      have hquiet : ∀ x ∈ addresses.map Task.remove, x.isQuiet = true := by
        intro x hx
        obtain ⟨a, -, rfl⟩ := List.mem_map.1 hx
        rfl
      have hsame := c.world.scheduler.traffic_append_quiet hquiet []
      rw [List.append_nil] at hsame
      rw [World.traffic, World.traffic, hrest, hsame]
      exact .moves (.same _)
  | @forget f rest =>
      have hkept := report_keeps (fun s => (s.handovers, s.traffic c.world.tasks))
        (fun _ _ _ _ => rfl) { c.world.scheduler with outcomes := rest } f
      obtain ⟨hhandovers, htraffic⟩ := Prod.mk.inj hkept
      refine hplain (fun _ => hhandovers) ?_
      rw [World.traffic, World.traffic, become, htraffic]
      exact .moves (.same _)
  | lose hstopped =>
      refine ⟨c.world.scheduler.handovers, ?_, drift_lose _ _ hstopped⟩
      rw [Loses, if_pos hstopped]
      exact (List.append_nil _).symm

/-! ## Histories -/

/-- One step of anybody, or the arrival of a request. -/
inductive Goes (c : Tenure) : Tenure → Prop where
  /-- The scheduler or a helper acts. -/
  | step {c' : Tenure} (h : c.Step c') : Goes c c'
  /-- A request that is new arrives, as long as the queue of requests is there. -/
  | arrive {r : Nat} {s : Scheduler} (hread : c.isRead = true) (hnew : r ∉ c.world.arrived)
      (haccept : c.world.scheduler.accept? r = some s) :
      Goes c { c with world := { c.world with scheduler := s, arrived := r :: c.world.arrived } }

theorem Orderly.goes (h : c.Orderly) (hgoes : c.Goes c') : c'.Orderly := by
  cases hgoes with
  | step step => exact h.step step
  | arrive _ hnew haccept =>
      have harrive := World.Step.arrive hnew haccept
      obtain rfl := accept?_eq haccept
      exact ⟨h.sound.step harrive, h.apart.step h.sound harrive, harrive.numbered h.numbered,
        fun hleaving => (h.clearing hleaving).of_same rfl rfl, h.gone⟩

theorem Goes.drift (hgoes : c.Goes c') (h : c.Orderly) :
    ∃ lost, c.Loses c' lost ∧
      c.world.traffic.Drift c.world.scheduler.signalled c.world.scheduler.stopped
        (c'.world.traffic.abandon lost) := by
  cases hgoes with
  | step step => exact step.drift h
  | arrive _ _ haccept =>
      obtain rfl := accept?_eq haccept
      refine ⟨[], loses_nil fun _ => rfl, ?_⟩
      rw [Multiset.coe_nil, Traffic.abandon_zero]
      exact .moves (.same _)

/-- Once it is gone, the scheduler stays so and starts no forward. -/
theorem Goes.of_stopped (hgoes : c.Goes c') (h : c.Orderly)
    (hstopped : c.world.scheduler.stopped = true) :
    c'.world.scheduler.stopped = true ∧
      c'.world.scheduler.routes.Sublist c.world.scheduler.routes := by
  cases hgoes with
  | step step => exact step.of_stopped h hstopped
  | arrive _ _ haccept =>
      obtain rfl := accept?_eq haccept
      exact ⟨hstopped, .refl _⟩

/-! ## Nothing left -/

/-- Slots of a scheduler that is gone are empty, if each tunnel has one owner. -/
theorem Orderly.tunnelAt_eq_none (h : c.Orderly) {gone : Multiset Handover}
    (howned : (c.world.traffic.abandon gone).Owned) (hstopped : c.world.scheduler.stopped = true)
    (b i : Nat) : c.world.scheduler.tunnelAt b i = none := by
  obtain ⟨hleft, hrest, -⟩ := h.gone hstopped
  by_contra hsome
  have hdead : ¬c.world.traffic.Live b := by
    intro hlive
    have hretired := (live_traffic c.world.scheduler c.world.tasks b).1 hlive
    have htracked := (tracked_iff h.sound.roster _ b).2 ⟨hretired, rfl⟩
    rw [(h.clearing hleft).tracked?_eq_none hrest] at htracked
    contradiction
  rw [← tunnelAt_traffic c.world.scheduler c.world.tasks] at hsome
  have hempties := howned.emptying b i hdead (Option.isSome_iff_ne_none.2 hsome)
  have hmem := World.empty_mem_of_place hempties
  rw [hrest] at hmem
  contradiction

/-- **A scheduler that is gone has nothing left**, if each tunnel has one owner. -/
theorem Orderly.emptied (h : c.Orderly) {gone : Multiset Handover}
    (howned : (c.world.traffic.abandon gone).Owned) (hstopped : c.world.scheduler.stopped = true) :
    c.world.scheduler.Emptied := by
  obtain ⟨hleft, hrest, hpending⟩ := h.gone hstopped
  have huntracked := (h.clearing hleft).tracked?_eq_none hrest
  have hboth := fun a => Option.or_eq_none_iff.1 (huntracked a)
  obtain ⟨hpool, hretired⟩ := h.sound.roster.of_untracked huntracked
  refine {
    schedulable := Directory.entries_eq_nil fun a => (hboth a).1
    connecting := Directory.entries_eq_nil fun a => (hboth a).2
    pool := hpool
    pending := hpending
    retired := fun b x hx => ⟨?_, fun y hy => ?_⟩ }
  · have hidentity := (getElem?_identities c.world.scheduler b).trans (congrArg _ hx)
    exact hretired x.identity (List.mem_of_getElem? hidentity)
  · obtain ⟨i, hi⟩ := List.mem_iff_getElem?.1 hy
    have hempty := h.tunnelAt_eq_none howned hstopped b i
    rw [tunnelAt, Fleet.tunnelAt, Fleet.slot?, hx, Option.bind_some, hi, Option.bind_some] at hempty
    exact hempty

/-! ## Up to the end -/

/-- A history up to the end of the scheduler and beyond, the present first. -/
inductive History (settings : Settings) (permits : Nat) : List Tenure → Prop where
  | start : History settings permits [{ world := World.initial settings permits }]
  | step {c c' : Tenure} {past : List Tenure} (history : History settings permits (c :: past))
      (h : c.Goes c') : History settings permits (c' :: c :: past)

/-- The tunnels that were handed over and not taken when the scheduler was gone. -/
def abandoned : List Tenure → List Handover
  | c' :: c :: past =>
    if c.world.scheduler.stopped then abandoned (c :: past)
    else if c'.world.scheduler.stopped then c'.world.scheduler.handovers else []
  | _ => []

namespace History

variable {settings : Settings} {permits : Nat} {past : List Tenure}

/-- What holds at first and is kept by every step holds of every history. -/
theorem induct {P : ∀ {c : Tenure} {past : List Tenure}, History settings permits (c :: past) → Prop}
    (initial : P .start)
    (kept : ∀ {c c' : Tenure} {past : List Tenure} (history : History settings permits (c :: past))
      (h : c.Goes c'), P history → P (history.step h))
    {c : Tenure} {past : List Tenure} (history : History settings permits (c :: past)) : P history :=
  match c, past, history with
  | _, _, .start => initial
  | _, _, .step history h => kept history h (induct initial kept history)

theorem orderly (history : History settings permits (c :: past)) : c.Orderly := by
  induction history using History.induct with
  | initial =>
      exact ⟨World.sound_initial settings permits, World.apart_initial settings permits,
        ⟨List.nodup_nil, fun _ h => absurd h List.not_mem_nil⟩, fun h => by contradiction,
        fun h => by contradiction⟩
  | kept _ h ih => exact ih.goes h

/-- Once the scheduler is gone, a history may go on, but with no forward started and nothing
else abandoned. -/
theorem later (history : History settings permits (c :: past))
    (hstopped : c.world.scheduler.stopped = true) (hlater : Relation.ReflTransGen Goes c c') :
    c'.world.scheduler.routes.Sublist c.world.scheduler.routes ∧
      ∃ past', History settings permits (c' :: past') ∧ c'.world.scheduler.stopped = true ∧
        abandoned (c' :: past') = abandoned (c :: past) := by
  induction hlater with
  | refl => exact ⟨.refl _, past, history, hstopped, rfl⟩
  | @tail d d' _ hgoes ih =>
      obtain ⟨hroutes, past', history', hthere, habandoned⟩ := ih
      obtain ⟨hstays, hfewer⟩ := hgoes.of_stopped history'.orderly hthere
      refine ⟨hfewer.trans hroutes, d :: past', history'.step hgoes, hstays, ?_⟩
      rw [abandoned, if_pos hthere, habandoned]

/-- Each tunnel has one owner, if those that were lost count as had by somebody.  What was
handed over to a scheduler that is gone was lost, or is still in the queue. -/
theorem owned (history : History settings permits (c :: past)) :
    ∃ gone : Multiset Handover, (c.world.traffic.abandon gone).Owned ∧
      if c.world.scheduler.stopped then
        (abandoned (c :: past) : Multiset Handover) = gone + c.world.scheduler.handovers
      else gone = 0 := by
  induction history using History.induct with
  | initial =>
      refine ⟨0, ?_, rfl⟩
      rw [Traffic.abandon_zero]
      exact ⟨fun _ => rfl, fun _ _ _ hsome => by contradiction⟩
  | @kept c c' past history h ih =>
      obtain ⟨gone, howned, hgone⟩ := ih
      obtain ⟨lost, hlost, hdrift⟩ := h.drift history.orderly
      refine ⟨gone + lost, ?_, ?_⟩
      · rw [← Traffic.abandon_abandon]
        exact howned.drifts (hdrift.abandon gone)
      rw [abandoned]
      unfold Loses at hlost
      cases hstopped : c.world.scheduler.stopped with
      | true =>
          obtain ⟨hstays, -⟩ := h.of_stopped history.orderly hstopped
          rw [if_pos hstopped] at hgone hlost
          rw [if_pos rfl, if_pos hstays, hgone, hlost, ← Multiset.coe_add, add_assoc]
      | false =>
          rw [if_neg (by simp [hstopped])] at hgone hlost
          rw [if_neg Bool.false_ne_true, hgone, hlost, zero_add]
          split
          · exact (zero_add _).symm
          · rfl

/-- Slots of a scheduler that is gone are empty. -/
theorem tunnelAt_eq_none (history : History settings permits (c :: past))
    (hstopped : c.world.scheduler.stopped = true) (b i : Nat) :
    c.world.scheduler.tunnelAt b i = none := by
  obtain ⟨gone, howned, -⟩ := history.owned
  exact history.orderly.tunnelAt_eq_none howned hstopped b i

/-- **A tunnel was closed once unless it was abandoned**, when the scheduler is gone, all sessions
have ended and no forward is about to close a tunnel. -/
theorem closesOf_add_abandoned (history : History settings permits (c :: past))
    (hstopped : c.world.scheduler.stopped = true) (hsessions : c.world.scheduler.sessions = [])
    (hforwards : ∀ f ∈ c.world.scheduler.forwards, f.stage.taken? = none) (t : Nat) :
    ((abandoned (c :: past)).map Handover.tunnel).count t + c.world.closesOf t =
      if t < c.world.scheduler.fleet.tunnels.size then 1 else 0 := by
  obtain ⟨-, hrest, -⟩ := history.orderly.gone hstopped
  obtain ⟨gone, howned, hgone⟩ := history.owned
  rw [if_pos hstopped] at hgone
  have hseats : c.world.traffic.seats t = 0 := by
    by_contra hpos
    obtain ⟨b, i, ht⟩ := c.world.traffic.exists_of_seats_pos (Nat.pos_of_ne_zero hpos)
    rw [World.traffic, tunnelAt_traffic, history.tunnelAt_eq_none hstopped] at ht
    contradiction
  have hcarried : (c.world.traffic.abandon gone).carried = abandoned (c :: past) := by
    rw [hgone, Traffic.abandon, World.traffic]
    simp [Scheduler.traffic, hrest, hsessions]
  have hclosers : c.world.traffic.closers t = 0 := by
    have htaken : c.world.scheduler.forwards.filterMap (fun f => f.stage.taken?) = [] :=
      List.filterMap_eq_nil_iff.2 hforwards
    simp [Traffic.closers, World.traffic, Scheduler.traffic, hrest, htaken]
  have honce := howned.once t
  rw [Traffic.bearers, hcarried] at honce
  -- tunnels that are lost change nothing but what is carried
  change c.world.traffic.seats t + _ + c.world.traffic.closers t + c.world.traffic.closesOf t =
    if t < c.world.traffic.closes.length then 1 else 0 at honce
  rw [hseats, hclosers, World.closesOf_traffic, World.length_closes] at honce
  simpa using honce

/-- What was abandoned is somebody's, so it was not closed. -/
theorem closesOf_of_abandoned (history : History settings permits (c :: past))
    (hstopped : c.world.scheduler.stopped = true) {x : Handover} (hx : x ∈ abandoned (c :: past)) :
    x.tunnel < c.world.scheduler.fleet.tunnels.size ∧ c.world.closesOf x.tunnel = 0 := by
  obtain ⟨gone, howned, hgone⟩ := history.owned
  rw [if_pos hstopped] at hgone
  have hcarried : x ∈ (c.world.traffic.abandon gone).carried := by
    have hmem : x ∈ gone + (c.world.scheduler.handovers : Multiset Handover) := by
      rw [← hgone]
      exact hx
    refine Multiset.mem_add.2 ((Multiset.mem_add.1 hmem).imp_right fun hqueued => ?_)
    exact List.mem_append_left _ (List.mem_append_right _ hqueued)
  have hbearer : 0 < (c.world.traffic.abandon gone).bearers x.tunnel :=
    Multiset.count_pos.2 (Multiset.mem_map_of_mem Handover.tunnel hcarried)
  have honce := howned.once x.tunnel
  have hcloses : (c.world.traffic.abandon gone).closesOf x.tunnel = c.world.closesOf x.tunnel :=
    c.world.closesOf_traffic x.tunnel
  have hlength : (c.world.traffic.abandon gone).closes.length =
      c.world.scheduler.fleet.tunnels.size := c.world.length_closes
  rw [hcloses, hlength] at honce
  split at honce
  · next hlt => exact ⟨hlt, by omega⟩
  · omega

end History

/-- What is left of a scheduler that is gone. -/
structure TornDown (c : Tenure) (abandoned : List Handover) : Prop where
  /-- No address is known. -/
  schedulable : c.world.scheduler.schedulable.entries = []
  connecting : c.world.scheduler.connecting.entries = []
  /-- No instance is in the pool. -/
  pool : c.world.scheduler.pool.items = #[]
  /-- No request waits. -/
  pending : c.world.scheduler.pending = []
  /-- Every instance that ever was was given up, and its slots are empty. -/
  retired : ∀ b x, c.world.scheduler.fleet.backend? b = some x →
    x.retired = true ∧ ∀ y ∈ x.slots, y.tunnel = none
  /-- No forward is ever started again. -/
  idle : ∀ c', Relation.ReflTransGen Goes c c' →
    c'.world.scheduler.routes.Sublist c.world.scheduler.routes
  /-- Every tunnel that a dial ever gave was closed, once, unless it was abandoned. -/
  closed : ∀ t < c.world.scheduler.fleet.tunnels.size, t ∉ abandoned.map Handover.tunnel →
    c.world.closesOf t = 1
  /-- Those that were abandoned are never closed. -/
  unclosed : ∀ x ∈ abandoned, x.tunnel < c.world.scheduler.fleet.tunnels.size ∧
    ∀ c', Relation.ReflTransGen Goes c c' → c'.world.closesOf x.tunnel = 0

namespace History

variable {settings : Settings} {permits : Nat} {past : List Tenure}

/-- **Shutdown leaves no tunnel open** but those that were handed over and not taken when the
scheduler was gone. -/
theorem torn_down (history : History settings permits (c :: past))
    (hstopped : c.world.scheduler.stopped = true) (hsessions : c.world.scheduler.sessions = [])
    (hforwards : ∀ f ∈ c.world.scheduler.forwards, f.stage.taken? = none) :
    c.TornDown (abandoned (c :: past)) := by
  obtain ⟨gone, howned, -⟩ := history.owned
  have hemptied := history.orderly.emptied howned hstopped
  have hcloses := history.closesOf_add_abandoned hstopped hsessions hforwards
  refine {
    schedulable := hemptied.schedulable
    connecting := hemptied.connecting
    pool := hemptied.pool
    pending := hemptied.pending
    retired := hemptied.retired
    idle := fun c' hlater => (history.later hstopped hlater).1
    closed := fun t ht hnot => ?_
    unclosed := fun x hx => ⟨(history.closesOf_of_abandoned hstopped hx).1, fun c' hlater => ?_⟩ }
  · have honce := hcloses t
    rw [if_pos ht, List.count_eq_zero_of_not_mem hnot, Nat.zero_add] at honce
    exact honce
  · obtain ⟨-, past', history', hstays, habandoned⟩ := history.later hstopped hlater
    exact (history'.closesOf_of_abandoned hstays (habandoned ▸ hx)).2

/-- The next task is done. -/
theorem next (history : History settings permits (c :: past)) (h : c.world.tasks ≠ []) :
    History settings permits ({ c with world := c.world.next } :: c :: past) :=
  history.step (.step (.perform h))

/-- A session goes on. -/
theorem session (history : History settings permits (c :: past)) (draw number : Nat)
    (h : (c.world.scheduler.stepSession? draw number).isSome = true) :
    History settings permits
      (c.become ((c.world.scheduler.stepSession? draw number).get h) :: c :: past) :=
  history.step (.step (.work (.session (Option.some_get h).symm)))

/-- A history in which a tunnel is in its slot, and another one is handed over before the
scheduler leaves its loop. -/
theorem exists_abandoning :
    ∃ c past, History ⟨.leastLoaded, false, 1, 1, 2, ⟨0, 100⟩, default⟩ 1 (c :: past) ∧
      c.world.scheduler.stopped = true ∧ c.world.scheduler.sessions = [] ∧
      c.world.scheduler.forwards = [] ∧ c.world.scheduler.fleet.tunnels.size = 2 ∧
      abandoned (c :: past) = [⟨0, 1, 1⟩] ∧ c.world.closesOf 0 = 1 ∧ c.world.closesOf 1 = 0 := by
  have begun := @History.start ⟨.leastLoaded, false, 1, 1, 2, ⟨0, 100⟩, default⟩ 1
  -- a snapshot makes an instance, and two sessions are asked for
  have posted := begun.step (.step (.work (.post (.ofHealthy ["a"]))))
  have opened := posted.step (.step
    (.receive rfl rfl (.snapshot rfl) (.snapshot _ (by decide) .rfl .rfl (.inl rfl))))
  have arrived := (opened.next (by decide +kernel)).next (by decide +kernel)
  have ready := (arrived.next (by decide +kernel)).next (by decide +kernel)
  -- both get a tunnel, and the first one is put into its slot
  have looked := (((ready.session 0 0 (by decide +kernel)).session 0 0 (by decide +kernel)).session 0 1
    (by decide +kernel)).session 0 1 (by decide +kernel)
  have dialing := (looked.session 0 0 (by decide +kernel)).session 0 1 (by decide +kernel)
  have first := dialing.step (.step (.work (@Work.dialed _ 0 ⟨0, 0, 0, .dialing 0⟩ {}
    (by decide +kernel) rfl rfl)))
  have second := first.step (.step (.work (@Work.dialed _ 1 ⟨1, 0, 1, .dialing 0⟩ {}
    (by decide +kernel) rfl rfl)))
  have handed := second.session 0 0 (by decide +kernel)
  have heard := handed.step (.step (.receive rfl (by decide +kernel)
    (@Receives.handover _ ⟨0, 0, 0⟩ [] (by decide +kernel)) (.handover _)))
  have filled := (heard.next (by decide +kernel)).next (by decide +kernel)
  have idle := (filled.next (by decide +kernel)).next (by decide +kernel)
  -- the second one is handed over, and shutdown is signalled before the scheduler turns to it
  have queued := idle.session 0 1 (by decide +kernel)
  have signalled := queued.step (.step .signal)
  have leaving := signalled.step (.step
    (@Step.leave _ ["a"] rfl (by decide +kernel) rfl (by decide +kernel)))
  have removed := (leaving.next (by decide +kernel)).next (by decide +kernel)
  have cleared := (removed.next (by decide +kernel)).next (by decide +kernel)
  have closed := cleared.step (.step (.close rfl (by decide +kernel) (by decide +kernel)
    (by decide +kernel)))
  have lost := closed.step (.step (.lose rfl))
  exact ⟨_, _, lost, rfl, by decide +kernel, by decide +kernel, by decide +kernel,
    by decide +kernel, by decide +kernel, by decide +kernel⟩

/-- The tunnel that was in its slot was closed, and the other one was abandoned. -/
theorem torn_down_but_one :
    ∃ c past, History ⟨.leastLoaded, false, 1, 1, 2, ⟨0, 100⟩, default⟩ 1 (c :: past) ∧
      c.world.scheduler.stopped = true ∧ c.world.scheduler.sessions = [] ∧
      c.TornDown [⟨0, 1, 1⟩] ∧ c.world.closesOf 0 = 1 ∧ c.world.closesOf 1 = 0 := by
  obtain ⟨c, past, history, hstopped, hsessions, hforwards, htunnels, habandoned, -⟩ :=
    exists_abandoning
  have hdown := torn_down history hstopped hsessions fun f hf => by
    rw [hforwards] at hf
    contradiction
  rw [habandoned] at hdown
  exact ⟨c, past, history, hstopped, hsessions, hdown,
    hdown.closed 0 (by rw [htunnels]; decide) (by decide),
    (hdown.unclosed ⟨0, 1, 1⟩ List.mem_cons_self).2 c .refl⟩

/-- So shutdown may leave a tunnel open. -/
theorem not_all_closed :
    ¬∀ (settings : Settings) (permits : Nat) (c : Tenure) (past : List Tenure),
      History settings permits (c :: past) → c.world.scheduler.stopped = true →
      c.world.scheduler.sessions = [] →
      (∀ f ∈ c.world.scheduler.forwards, f.stage.taken? = none) →
      ∀ t < c.world.scheduler.fleet.tunnels.size, 0 < c.world.closesOf t := by
  intro h
  obtain ⟨c, past, history, hstopped, hsessions, hforwards, htunnels, -, -, hopen⟩ :=
    exists_abandoning
  have hclosed := h _ _ c past history hstopped hsessions
    (fun f hf => by rw [hforwards] at hf; contradiction) 1 (by rw [htunnels]; decide)
  rw [hopen] at hclosed
  contradiction

end History

end Tenure

end StreamBalancer
