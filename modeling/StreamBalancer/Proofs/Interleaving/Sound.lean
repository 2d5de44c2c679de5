import StreamBalancer.Proofs.Addresses
import StreamBalancer.Proofs.Interleaving.Roster

/-!
# StreamBalancer.Proofs.Interleaving.Sound

Tables, pool and identities agree at every moment of every history, also in the
midst of the handling of a message (`Run.sound`).

1. What is left to do of a message fits the tables: an instance that a task
   relies on was not given up, and an address that is about to be added is not
   known (`World.Sound`).
2. Removals are done before anything that relies on an instance, and no address
   is added twice (`Task.Before`), so no task pulls away what a later one needs.
3. Settings never change, and nobody signals shutdown (`Run.fixed`).
-/

namespace StreamBalancer

namespace Scheduler

/-! ## Tasks and what they rely on -/

namespace Task

/-- The instance that a task relies on. -/
def live? : Task → Option Nat
  | check b | inspect b _ | weigh b _ _ | mark b _ | connected b => some b
  | _ => none

/-- Whether a task is the removal of an instance. -/
def isRemoval : Task → Bool
  | remove _ => true
  | _ => false

/-- Whether a task is part of a removal, or of the closing of a tunnel. -/
def isTidying : Task → Bool
  | remove _ | empty _ _ | close _ => true
  | _ => false

/-- Whether a task comes from a snapshot only. -/
def isPlanned : Task → Bool
  | remove _ | arrive _ => true
  | _ => false

/-- What holds of a task and one that is to be done after it. -/
structure Before (x y : Task) : Prop where
  /-- What comes before a removal is part of another one. -/
  tidy : y.isRemoval = true → x.isTidying = true
  /-- Nothing after a removal relies on an instance. -/
  apart : x.isRemoval = true → y.live? = none
  /-- No address is added twice. -/
  fresh : ∀ a, x = arrive a → y ≠ arrive a

theorem before_of_not_planned {x y : Task} (hx : x.isPlanned = false) (hy : y.isRemoval = false) :
    Before x y where
  tidy h := by
    rw [hy] at h
    contradiction
  apart h := by
    cases x with
    | remove => contradiction
    | _ => contradiction
  fresh a h := by
    rw [h] at hx
    contradiction

theorem before_of_remove {a : String} {y : Task} (hy : y.live? = none) : Before (remove a) y where
  tidy _ := rfl
  apart _ := hy
  fresh b h := by contradiction

theorem before_of_arrive {a : String} {y : Task} (hy : y.isRemoval = false) (hne : y ≠ arrive a) :
    Before (arrive a) y where
  tidy h := by
    rw [hy] at h
    contradiction
  apart h := by contradiction
  fresh b h := arrive.inj h ▸ hne

theorem isRemoval_of_not_planned {x : Task} (hx : x.isPlanned = false) : x.isRemoval = false := by
  cases x with
  | remove => contradiction
  | _ => rfl

theorem live?_of_isTidying {x : Task} (hx : x.isTidying = true) : x.live? = none := by
  cases x with
  | remove | empty | close => rfl
  | _ => contradiction

theorem pairwise_before {tasks : List Task} (h : ∀ x ∈ tasks, x.isPlanned = false) :
    tasks.Pairwise Before := by
  refine List.Pairwise.imp_of_mem (R := fun _ _ => True) ?_ (List.pairwise_of_forall fun _ _ => trivial)
  intro x y hx hy _
  exact before_of_not_planned (h x hx) (isRemoval_of_not_planned (h y hy))

end Task

/-- What is known of a task to which a task leads. -/
structure Leads (s : Scheduler) (x y : Task) : Prop where
  unplanned : y.isPlanned = false
  tidying : x.isTidying = true → y.isTidying = true
  live : ∀ b, y.live? = some b → x.live? = some b ∨ s.isRetired b = false
  emptying : ∀ b slot, y = .empty b slot → ∃ a, x = .remove a ∧ s.tracked? a = some b

/-- A task that relies on nothing and empties nothing may follow on any other that
is not tidying. -/
theorem leads_of_loose {s : Scheduler} {x y : Task} (hx : x.isTidying = false)
    (hplanned : y.isPlanned = false) (hlive : y.live? = none) (htidying : y.isTidying = false) :
    s.Leads x y where
  unplanned := hplanned
  tidying h := by
    rw [hx] at h
    contradiction
  live b h := by
    rw [hlive] at h
    contradiction
  emptying b slot h := by
    rw [h] at htidying
    contradiction

/-- A task may lead to one that relies on an instance that was not given up. -/
theorem leads_of_live {s : Scheduler} {x y : Task} {b : Nat} (hx : x.isTidying = false)
    (hy : y.live? = some b) (hb : x.live? = some b ∨ s.isRetired b = false) : s.Leads x y where
  unplanned := by
    cases y with
    | remove | arrive => contradiction
    | _ => rfl
  tidying h := by
    rw [hx] at h
    contradiction
  live c hc := by
    rw [hy] at hc
    rw [← Option.some.inj hc]
    exact hb
  emptying c slot h := by
    rw [h] at hy
    contradiction

/-- Any task may lead to the closing of a tunnel. -/
theorem leads_close (s : Scheduler) (x : Task) (t : Nat) : s.Leads x (.close t) where
  unplanned := rfl
  tidying _ := rfl
  live _ h := by contradiction
  emptying _ _ h := by contradiction

theorem leads_perform {s : Scheduler} {most : Nat} (h : s.roster.Sound most) (x : Task) :
    ∀ y ∈ (s.perform x).2, s.Leads x y := by
  intro y hy
  cases x with
  | request r =>
      simp only [perform] at hy
      split at hy
      · contradiction
      · obtain rfl := List.mem_singleton.1 hy
        exact leads_of_loose rfl rfl rfl rfl
  | dispatch r =>
      obtain heq | ⟨b, pool, hb, -, -, ⟨-, heq⟩ | ⟨-, heq⟩⟩ := perform_dispatch_cases h r
      · rw [heq] at hy
        contradiction
      · rw [heq] at hy
        contradiction
      · rw [heq] at hy
        obtain rfl | rfl := List.mem_pair.1 hy
        · exact leads_of_live rfl rfl (.inr (pooled_isRetired h hb))
        · exact leads_of_loose rfl rfl rfl rfl
  | check b =>
      simp only [perform] at hy
      split at hy
      · contradiction
      · split at hy
        · obtain ⟨slot, -, rfl⟩ := List.mem_map.1 hy
          exact leads_of_live rfl rfl (.inl rfl)
        · contradiction
  | inspect b slot =>
      obtain ⟨t, -, rfl⟩ := Option.map_eq_some_iff.1 (Option.mem_toList.1 hy)
      exact leads_of_live rfl rfl (.inl rfl)
  | weigh b slot t =>
      simp only [perform] at hy
      split at hy
      · split at hy <;> contradiction
      · contradiction
  | start | close | revive | arrive | publish => contradiction
  | finished f =>
      obtain ⟨b, outcome⟩ := f
      cases outcome with
      | completed | failed => contradiction
      | dialFailed r =>
          obtain rfl := List.mem_singleton.1 hy
          exact leads_of_loose rfl rfl rfl rfl
  | remove a =>
      cases hb : s.tracked? a with
      | none =>
          rw [perform_remove_none s hb] at hy
          contradiction
      | some b =>
          rw [(perform_remove s hb).2] at hy
          obtain ⟨slot, -, rfl⟩ := List.mem_map.1 hy
          refine ⟨rfl, fun _ => rfl, fun c hc => by contradiction, fun c i heq => ?_⟩
          obtain ⟨rfl, -⟩ := Task.empty.inj heq
          exact ⟨a, rfl, hb⟩
  | empty b slot =>
      simp only [perform] at hy
      split at hy
      · obtain rfl := List.mem_singleton.1 hy
        exact leads_close _ _ _
      · contradiction
  | drain =>
      simp only [perform] at hy
      split at hy
      · contradiction
      · split at hy
        · contradiction
        · obtain rfl | rfl := List.mem_pair.1 hy
          · exact leads_of_loose rfl rfl rfl rfl
          · exact leads_of_loose rfl rfl rfl rfl
  | failure f =>
      simp only [perform] at hy
      split at hy
      · contradiction
      · next hcurrent =>
        obtain rfl := List.mem_singleton.1 hy
        rw [isCurrent_eq h] at hcurrent
        have hlive : s.isRetired f.backend = false ∧
            s.holdsAnother f.backend f.slot f.tunnel = false := by simpa using hcurrent
        exact leads_of_live rfl rfl (.inr hlive.1)
  | mark b slot =>
      simp only [perform] at hy
      split at hy <;> contradiction
  | handover v =>
      simp only [perform] at hy
      split at hy
      · obtain rfl := List.mem_singleton.1 hy
        exact leads_close _ _ _
      · next hcurrent =>
        rw [isCurrent_eq h] at hcurrent
        have hlive : s.isRetired v.backend = false := by simpa using hcurrent
        split at hy
        · obtain hy | hy := List.mem_append.1 hy
          · obtain ⟨t, -, rfl⟩ := List.mem_map.1 hy
            exact leads_close _ _ _
          · obtain rfl := List.mem_singleton.1 hy
            exact leads_of_live rfl rfl (.inr hlive)
        · obtain rfl | rfl := List.mem_pair.1 hy
          · exact leads_close _ _ _
          · exact leads_of_live rfl rfl (.inr hlive)
  | connected b =>
      simp only [perform] at hy
      split at hy
      · obtain rfl := List.mem_singleton.1 hy
        exact leads_of_loose rfl rfl rfl rfl
      · contradiction

/-! ## Who is given up -/

/-- Whether an instance was ever created and given up. -/
def gaveUp (s : Scheduler) (b : Nat) : Prop :=
  ∃ x, s.roster.identities[b]? = some x ∧ x.retired = true

theorem isRetired_perform {s : Scheduler} {most : Nat} (h : s.roster.Sound most) (task : Task)
    {b : Nat} (hb : s.isRetired b = false) :
    (s.perform task).1.isRetired b = false ∨ ∃ a, task = .remove a ∧ s.tracked? a = some b := by
  obtain ⟨x, hx, hxr⟩ := (isRetired_eq_false_iff s b).1 hb
  rw [isRetired_eq_false_iff]
  obtain heq | ⟨a, c, htask, hc, heq⟩ | ⟨a, -, heq⟩ := identities_perform h task
  · rw [heq]
    exact .inl ⟨x, hx, hxr⟩
  · by_cases hcb : c = b
    · exact .inr ⟨a, htask, hcb ▸ hc⟩
    · left
      rw [heq, Roster.getElem?_retire, if_neg hcb]
      exact ⟨x, hx, hxr⟩
  · left
    rw [heq, List.getElem?_append_left (List.getElem?_eq_some_iff.1 hx).1]
    exact ⟨x, hx, hxr⟩

theorem gaveUp_perform {s : Scheduler} {most : Nat} (h : s.roster.Sound most) (task : Task)
    {b : Nat} (hb : s.gaveUp b) : (s.perform task).1.gaveUp b := by
  obtain ⟨x, hx, hxr⟩ := hb
  rw [gaveUp]
  obtain heq | ⟨a, c, -, -, heq⟩ | ⟨a, -, heq⟩ := identities_perform h task
  · rw [heq]
    exact ⟨x, hx, hxr⟩
  · rw [heq, Roster.getElem?_retire, hx]
    split
    · exact ⟨_, rfl, rfl⟩
    · exact ⟨x, rfl, hxr⟩
  · rw [heq, List.getElem?_append_left (List.getElem?_eq_some_iff.1 hx).1]
    exact ⟨x, hx, hxr⟩

theorem gaveUp_perform_remove {s : Scheduler} {most : Nat} (h : s.roster.Sound most) {a : String}
    {b : Nat} (hb : s.tracked? a = some b) : (s.perform (.remove a)).1.gaveUp b := by
  obtain ⟨x, hx, -⟩ := (h.tracked_iff a b).1 hb
  refine ⟨{ x with retired := true }, ?_, rfl⟩
  rw [(perform_remove s hb).1, Roster.strike]
  rw [Roster.getElem?_retire, if_pos rfl, hx]
  rfl

/-! ## What never changes -/

/-- Settings and the marks of shutdown. -/
def fixed (s : Scheduler) : Settings × Bool × Bool := (s.settings, s.signalled, s.stopped)

theorem fixed_perform (s : Scheduler) (task : Task) : (s.perform task).1.fixed = s.fixed :=
  perform_keeps fixed (fun _ _ _ _ _ _ _ _ _ _ _ => rfl) s (.inr fun _ _ _ => rfl)

theorem ForwardMoves.fixed_eq {s t : Scheduler} {f : Forward} (h : s.ForwardMoves f t) :
    t.fixed = s.fixed := by
  cases h with
  | advances | releases => rfl
  | reports => exact report_keeps Scheduler.fixed (fun _ _ _ _ => rfl) _ _

theorem SessionMoves.fixed_eq {s t : Scheduler} {x : Session} (h : s.SessionMoves x t) :
    t.fixed = s.fixed := by
  cases h with
  | hands =>
      unfold handOver
      split <;> rfl
  | ends | goes => rfl

theorem Work.fixed_eq {s t : Scheduler} (h : s.Work t) : t.fixed = s.fixed := by
  cases h with
  | session h =>
      obtain ⟨x, -, hmoves⟩ := stepSession?_cases h
      exact hmoves.fixed_eq
  | forward reach h =>
      obtain ⟨f, -, hmoves⟩ := stepForward?_cases h
      exact hmoves.fixed_eq
  | spliced moved =>
      unfold endSplice
      split
      · rfl
      · split <;> rfl
  | post | dialed | undialed | retune | tick => rfl

theorem Receives.fixed_eq {s t : Scheduler} {e : Event} (h : s.Receives e t) :
    t.fixed = s.fixed := by
  cases h <;> rfl

theorem Receives.roster_eq {s t : Scheduler} {e : Event} (h : s.Receives e t) :
    t.roster = s.roster := by
  cases h <;> rfl

/-- Accepting a request takes a permit and queues it. -/
theorem accept?_eq {s t : Scheduler} {r : Nat} (h : s.accept? r = some t) :
    t = { s with permits := s.permits - 1, jobs := s.jobs ++ [r] } := by
  unfold accept? at h
  split at h
  · contradiction
  · exact (Option.some.inj h).symm

end Scheduler

namespace World

open Scheduler

/-- The tables agree with each other, and what is left to do fits them. -/
structure Sound (w : World) : Prop where
  roster : w.scheduler.roster.Sound w.scheduler.settings.maxBackends
  ordered : w.tasks.Pairwise Task.Before
  live : ∀ x ∈ w.tasks, ∀ b, x.live? = some b → w.scheduler.isRetired b = false
  emptying : ∀ b slot, .empty b slot ∈ w.tasks → w.scheduler.gaveUp b
  arriving : ∀ a, .arrive a ∈ w.tasks → w.scheduler.tracked? a = none

theorem sound_initial (settings : Settings) (permits : Nat) : (initial settings permits).Sound where
  roster := {
    schedulable_unique := Directory.unique_empty
    connecting_unique := Directory.unique_empty
    disjoint _ h := absurd h List.not_mem_nil
    tracked_iff a b := by
      refine ⟨fun h => by contradiction, ?_⟩
      rintro ⟨x, hx, -⟩
      contradiction
    room := Nat.zero_le _
    indexed := Pool.indexed_empty
    pooled b hb := absurd hb (Array.not_mem_empty b)
    weights b x hx := by contradiction
    nextWeight_eq := rfl }
  ordered := .nil
  live _ h := absurd h List.not_mem_nil
  emptying _ _ h := absurd h List.not_mem_nil
  arriving _ h := absurd h List.not_mem_nil

namespace Sound

variable {w : World}

/-- Whoever leaves the roster and the settings alone keeps the world sound. -/
theorem of_roster_eq (h : w.Sound) {s : Scheduler} (hroster : s.roster = w.scheduler.roster)
    (hfixed : s.fixed = w.scheduler.fixed) (arrived : List Nat) :
    World.Sound { scheduler := s, tasks := w.tasks, arrived } where
  roster := by
    have hsettings : s.settings = w.scheduler.settings := congrArg Prod.fst hfixed
    rw [hroster, hsettings]
    exact h.roster
  ordered := h.ordered
  live x hx b hb := by
    rw [isRetired_eq, hroster, ← isRetired_eq]
    exact h.live x hx b hb
  emptying b slot hb := by
    rw [gaveUp, hroster]
    exact h.emptying b slot hb
  arriving a ha := by
    change s.roster.tracked? a = none
    rw [hroster]
    exact h.arriving a ha

/-- A message that leaves the roster alone may open any plan that fits the tables. -/
theorem of_tasks (h : w.Sound) {s : Scheduler} (hroster : s.roster = w.scheduler.roster)
    (hfixed : s.fixed = w.scheduler.fixed) {tasks : List Task} (hordered : tasks.Pairwise Task.Before)
    (hloose : ∀ x ∈ tasks, x.live? = none ∧ ∀ b slot, x ≠ .empty b slot)
    (harriving : ∀ a, .arrive a ∈ tasks → s.tracked? a = none) :
    World.Sound { w with scheduler := s, tasks } where
  roster := (h.of_roster_eq hroster hfixed w.arrived).roster
  ordered := hordered
  live x hx b hb := by
    rw [(hloose x hx).1] at hb
    contradiction
  emptying b slot hb := absurd rfl ((hloose _ hb).2 b slot)
  arriving := harriving

/-! ### Tasks -/

theorem ordered_perform {x : Task} {rest : List Task} (h : w.Sound) (htasks : w.tasks = x :: rest) :
    ((w.scheduler.perform x).2 ++ rest).Pairwise Task.Before := by
  have hordered := h.ordered
  rw [htasks, List.pairwise_cons] at hordered
  have hleads := leads_perform h.roster x
  refine List.pairwise_append.2
    ⟨Task.pairwise_before fun y hy => (hleads y hy).unplanned, hordered.2, fun y hy z hz => ?_⟩
  constructor
  · intro hz'
    exact (hleads y hy).tidying ((hordered.1 z hz).tidy hz')
  · intro hy'
    rw [Task.isRemoval_of_not_planned (hleads y hy).unplanned] at hy'
    contradiction
  · intro a ha
    have := (hleads y hy).unplanned
    rw [ha] at this
    contradiction

/-- The tables stay sound when a task is done. -/
theorem roster_perform {x : Task} {rest : List Task} (h : w.Sound) (htasks : w.tasks = x :: rest) :
    (w.scheduler.perform x).1.roster.Sound w.scheduler.settings.maxBackends := by
  by_cases hkeeps : x.keepsTables = true
  · exact h.roster.repools (perform_repools h.roster hkeeps)
  have hx : x ∈ w.tasks := htasks ▸ List.mem_cons_self
  cases x with
  | remove a =>
      cases hb : w.scheduler.tracked? a with
      | none =>
          rw [perform_remove_none _ hb]
          exact h.roster
      | some b =>
          rw [(perform_remove _ hb).1]
          exact h.roster.strike hb (Pool.erase_indexed _ h.roster.indexed b)
            fun c hc => (Pool.mem_erase _ h.roster.indexed b c).1 hc
  | arrive a => exact (perform_arrive h.roster rfl (h.arriving a hx)).1
  | connected b => exact (perform_connected h.roster (h.live _ hx b rfl)).1
  | _ => exact absurd rfl hkeeps

/-- An address that is not known, and whose turn to be added has not come, is still
not known when a task is done. -/
theorem tracked?_perform {x : Task} {rest : List Task} (h : w.Sound) (htasks : w.tasks = x :: rest)
    {a : String} (ha : w.scheduler.tracked? a = none) (hx : x ≠ .arrive a) :
    (w.scheduler.perform x).1.tracked? a = none := by
  have hmem : x ∈ w.tasks := htasks ▸ List.mem_cons_self
  by_cases hkeeps : x.keepsTables = true
  · exact ((perform_repools h.roster hkeeps).tracked?_eq a).trans ha
  cases x with
  | remove k =>
      cases hb : w.scheduler.tracked? k with
      | none =>
          rw [perform_remove_none _ hb]
          exact ha
      | some b =>
          change (w.scheduler.perform (.remove k)).1.roster.tracked? a = none
          rw [(perform_remove _ hb).1, h.roster.tracked?_strike]
          split
          · rfl
          · exact ha
  | arrive k =>
      rw [(perform_arrive h.roster rfl (h.arriving k hmem)).2 a fun hak => hx (hak ▸ rfl)]
      exact ha
  | connected b => rw [(perform_connected h.roster (h.live _ hmem b rfl)).2, ha]
  | _ => exact absurd rfl hkeeps

theorem perform {x : Task} {rest : List Task} (h : w.Sound) (htasks : w.tasks = x :: rest) :
    World.Sound { w with
      scheduler := (w.scheduler.perform x).1, tasks := (w.scheduler.perform x).2 ++ rest } where
  roster := by
    have hsettings : (w.scheduler.perform x).1.settings = w.scheduler.settings :=
      congrArg Prod.fst (fixed_perform w.scheduler x)
    rw [hsettings]
    exact h.roster_perform htasks
  ordered := h.ordered_perform htasks
  live y hy b hb := by
    have hordered := h.ordered
    rw [htasks, List.pairwise_cons] at hordered
    have hmem : ∀ z, z = x ∨ z ∈ rest → z ∈ w.tasks := fun z hz => htasks ▸ List.mem_cons.2 hz
    have hlive : w.scheduler.isRetired b = false := by
      obtain hy | hy := List.mem_append.1 hy
      · obtain hx | hlive := (leads_perform h.roster x y hy).live b hb
        · exact h.live x (hmem x (.inl rfl)) b hx
        · exact hlive
      · exact h.live y (hmem y (.inr hy)) b hb
    obtain hkept | ⟨a, rfl, hab⟩ := isRetired_perform h.roster x hlive
    · exact hkept
    · have hnone : y.live? = none := by
        obtain hy | hy := List.mem_append.1 hy
        · exact Task.live?_of_isTidying ((leads_perform h.roster _ y hy).tidying rfl)
        · exact (hordered.1 y hy).apart rfl
      rw [hnone] at hb
      contradiction
  emptying b slot hb := by
    have hmem : ∀ z, z ∈ rest → z ∈ w.tasks := fun z hz => htasks ▸ List.mem_cons_of_mem x hz
    obtain hb | hb := List.mem_append.1 hb
    · obtain ⟨a, rfl, hab⟩ := (leads_perform h.roster x _ hb).emptying b slot rfl
      exact gaveUp_perform_remove h.roster hab
    · exact gaveUp_perform h.roster x (h.emptying b slot (hmem _ hb))
  arriving a ha := by
    have hordered := h.ordered
    rw [htasks, List.pairwise_cons] at hordered
    obtain ha | ha := List.mem_append.1 ha
    · have := (leads_perform h.roster x _ ha).unplanned
      contradiction
    · exact h.tracked?_perform htasks (h.arriving a (htasks ▸ List.mem_cons_of_mem x ha))
        fun hx => (hordered.1 _ ha).fresh a hx rfl

/-! ### Messages -/

/-- A plan is in order if no address is added twice in it. -/
theorem ordered_sweep (removals revivals : List String) {arrivals : List String}
    (harrivals : arrivals.Nodup) :
    (sweep removals revivals arrivals ++ [Task.publish]).Pairwise Task.Before := by
  have hend : [Task.drain, Task.publish].Pairwise Task.Before := by
    apply Task.pairwise_before
    simp [Task.isPlanned]
  have hadd : (arrivals.map Task.arrive ++ [Task.drain, Task.publish]).Pairwise Task.Before := by
    refine List.pairwise_append.2 ⟨List.pairwise_map.2 (harrivals.imp fun hne => ?_), hend, ?_⟩
    · exact Task.before_of_arrive rfl fun h => hne (Task.arrive.inj h).symm
    · simp only [List.mem_map, forall_exists_index, and_imp, forall_apply_eq_imp_iff₂]
      intro a _ y hy
      obtain rfl | rfl := List.mem_pair.1 hy
      · exact Task.before_of_arrive rfl (by simp)
      · exact Task.before_of_arrive rfl (by simp)
  have hrevive : (revivals.map Task.revive ++
      (arrivals.map Task.arrive ++ [Task.drain, Task.publish])).Pairwise Task.Before := by
    refine List.pairwise_append.2 ⟨Task.pairwise_before (by simp [Task.isPlanned]), hadd, ?_⟩
    simp only [List.mem_map, forall_exists_index, and_imp, forall_apply_eq_imp_iff₂]
    intro a _ y hy
    apply Task.before_of_not_planned rfl
    simp only [List.mem_append, List.mem_map, List.mem_pair] at hy
    obtain ⟨k, -, rfl⟩ | rfl | rfl := hy <;> rfl
  rw [sweep, List.append_assoc, List.append_assoc, List.append_assoc]
  refine List.pairwise_append.2 ⟨List.pairwise_map.2 ?_, hrevive, ?_⟩
  · exact List.pairwise_of_forall fun a b => Task.before_of_remove rfl
  · simp only [List.mem_map, forall_exists_index, and_imp, forall_apply_eq_imp_iff₂]
    intro a _ y hy
    apply Task.before_of_remove
    simp only [List.mem_append, List.mem_map, List.mem_singleton] at hy
    obtain ⟨k, -, rfl⟩ | ⟨k, -, rfl⟩ | rfl | rfl := hy <;> rfl

/-- What is to be done of a plan. -/
theorem mem_sweep {removals revivals arrivals : List String} {x : Task}
    (hx : x ∈ sweep removals revivals arrivals ++ [Task.publish]) :
    (∃ a, x = .remove a) ∨ (∃ a, x = .revive a) ∨ (∃ a ∈ arrivals, x = .arrive a) ∨
      x = .drain ∨ x = .publish := by
  simp only [sweep, List.append_assoc, List.mem_append, List.mem_map, List.mem_singleton] at hx
  obtain ⟨a, -, rfl⟩ | ⟨a, -, rfl⟩ | ⟨a, ha, rfl⟩ | rfl | rfl := hx
  · exact .inl ⟨a, rfl⟩
  · exact .inr (.inl ⟨a, rfl⟩)
  · exact .inr (.inr (.inl ⟨a, ha, rfl⟩))
  · exact .inr (.inr (.inr (.inl rfl)))
  · exact .inr (.inr (.inr (.inr rfl)))

/-- The addresses that a snapshot adds are new, and each is added once. -/
theorem MayArrive.fresh {s : Scheduler} {x : Snapshot} {arrivals : List String}
    (h : s.MayArrive (s.fresh x.healthy) arrivals) :
    arrivals.Nodup ∧ ∀ a ∈ arrivals, s.tracked? a = none := by
  have hperm : arrivals.Perm (s.fresh x.healthy) := by
    obtain rfl | ⟨-, -, hperm⟩ := h
    · exact .rfl
    · exact hperm
  refine ⟨hperm.nodup_iff.2 ((Addresses.nodup_ofList _).filter _), fun a ha => ?_⟩
  have hfresh := (List.mem_filter.1 (hperm.mem_iff.1 ha)).2
  simpa using hfresh

/-- A message opens with tasks that fit the tables. -/
theorem opens {e : Event} {s : Scheduler} {tasks : List Task} (h : w.Sound)
    (hroster : s.roster = w.scheduler.roster) (hfixed : s.fixed = w.scheduler.fixed)
    (hopens : s.Opens e tasks) :
    World.Sound { w with scheduler := s, tasks := tasks ++ [.publish] } := by
  have hsingle : ∀ x : Task, x.isPlanned = false → x.live? = none → (∀ b slot, x ≠ .empty b slot) →
      World.Sound { w with scheduler := s, tasks := [x] ++ [.publish] } := by
    intro x hplanned hlive hempty
    refine h.of_tasks hroster hfixed
      (Task.pairwise_before fun y hy => ?_) (fun y hy => ?_) fun a ha => ?_
    · obtain rfl | rfl := List.mem_pair.1 hy
      · exact hplanned
      · rfl
    · obtain rfl | rfl := List.mem_pair.1 hy
      · exact ⟨hlive, hempty⟩
      · exact ⟨rfl, fun _ _ h => by contradiction⟩
    · obtain rfl | ha := List.mem_pair.1 ha
      · contradiction
      · contradiction
  cases hopens with
  | request | finished | failure | handover =>
      exact hsingle _ rfl rfl fun _ _ h => by contradiction
  | ignored =>
      refine h.of_tasks hroster hfixed (List.pairwise_singleton _ _) ?_ ?_
      · simp [Task.live?]
      · simp
  | snapshot x hhealthy hremovals hrevivals harrivals =>
      obtain ⟨hnodup, hnew⟩ := MayArrive.fresh harrivals
      refine h.of_tasks hroster hfixed (ordered_sweep _ _ hnodup) ?_ ?_
      · intro y hy
        obtain ⟨a, rfl⟩ | ⟨a, rfl⟩ | ⟨a, -, rfl⟩ | rfl | rfl := mem_sweep hy <;>
          exact ⟨rfl, fun _ _ h => by contradiction⟩
      · intro a ha
        obtain ⟨k, hk⟩ | ⟨k, hk⟩ | ⟨k, hmem, hk⟩ | hk | hk := mem_sweep ha
        · contradiction
        · contradiction
        · exact Task.arrive.inj hk ▸ hnew k hmem
        · contradiction
        · contradiction

theorem receive {e : Event} {s : Scheduler} {tasks : List Task} (h : w.Sound)
    (hreceives : w.scheduler.Receives e s) (hopens : s.Opens e tasks) :
    World.Sound { w with scheduler := s, tasks := tasks ++ [.publish] } :=
  h.opens hreceives.roster_eq hreceives.fixed_eq hopens

/-- Every step keeps the world sound. -/
theorem step (h : w.Sound) {w' : World} (step : w.Step w') : w'.Sound := by
  cases step with
  | perform htasks => exact h.perform htasks
  | receive _ hreceives hopens => exact h.receive hreceives hopens
  | query =>
      refine h.of_tasks rfl rfl (List.pairwise_singleton _ _) (fun x hx => ?_) fun a ha => ?_
      · rw [List.mem_singleton.1 hx]
        exact ⟨rfl, fun _ _ h => by contradiction⟩
      · have := List.mem_singleton.1 ha
        contradiction
  | arrive _ haccept =>
      exact h.of_roster_eq (by rw [accept?_eq haccept]; rfl) (by rw [accept?_eq haccept]; rfl) _
  | work hwork => exact h.of_roster_eq hwork.roster_eq hwork.fixed_eq w.arrived

end Sound

end World

namespace Run

open Scheduler

variable {settings : Settings} {permits : Nat} {w : World} {past : List World}

/-- Settings never change, and nobody signals shutdown. -/
theorem fixed (run : Run settings permits (w :: past)) :
    w.scheduler.fixed = (settings, false, false) := by
  induction run using Run.induct with
  | initial => exact rfl
  | @kept w w' _ _ step ih =>
      cases step with
      | perform => exact (fixed_perform _ _).trans ih
      | receive _ hreceives => exact hreceives.fixed_eq.trans ih
      | query => exact ih
      | arrive _ haccept =>
          rw [accept?_eq haccept]
          exact ih
      | work h => exact h.fixed_eq.trans ih

/-- **Tables, pool and identities agree at every moment of every history.** -/
theorem sound (run : Run settings permits (w :: past)) : w.Sound := by
  induction run using Run.induct with
  | initial => exact (World.sound_initial settings permits)
  | kept _ step ih => exact ih.step step

end Run

end StreamBalancer
