import StreamBalancer.Proofs.Interleaving.Transit
import StreamBalancer.Proofs.Stats

/-!
# StreamBalancer.Proofs.Interleaving.Tables

Between two messages tables, pool and identities agree (`Run.tables_agree`).

Most of it is what `Run.sound` says of every moment.  In the midst of a message a
connecting instance may hold a tunnel, but then the scheduler is about to make it
schedulable (`Run.unopened`).

Ranks are numbers without a bound.  They are words of 64 bits as long as there are no more
instances than such words (`Run.weights_fit`).
-/

namespace StreamBalancer

namespace Scheduler

/-! ## Where tunnels appear -/

/-- What tunnels are in slots depends on the slots alone. -/
theorem tunnelAt_congr {s t : Scheduler}
    (h : t.fleet.backends.toList.map Backend.slots = s.fleet.backends.toList.map Backend.slots)
    (b i : Nat) : t.tunnelAt b i = s.tunnelAt b i := by
  have hslots : ∀ r : Scheduler, r.tunnelAt b i =
      ((r.fleet.backends.toList.map Backend.slots)[b]?.bind fun l => l[i]?).bind Slot.tunnel := by
    intro r
    rw [List.getElem?_map, Array.getElem?_toList, Option.bind_map]
    rfl
  rw [hslots, hslots, h]

theorem tunnelAt_modifyBackend (s : Scheduler) (b : Nat) (change : Backend → Backend) (c i : Nat)
    (h : ∀ x, (change x).slots = x.slots) : (s.modifyBackend b change).tunnelAt c i = s.tunnelAt c i :=
  tunnelAt_congr (s := s) (t := s.modifyBackend b change)
    (Fleet.map_modifyBackend Backend.slots fun x _ => h x) c i

/-- A change of a slot that puts no tunnel in makes no tunnel appear. -/
theorem tunnelAt_of_modifySlot {f : Fleet} {b i c j : Nat} (change : Slot → Slot)
    (hchange : ∀ x, (change x).tunnel.isSome = true → x.tunnel.isSome = true)
    (h : ((f.modifySlot b i change).tunnelAt c j).isSome = true) :
    (f.tunnelAt c j).isSome = true := by
  rw [Fleet.tunnelAt, Fleet.slot?_modifySlot] at h
  split at h
  · rw [Option.bind_map] at h
    rw [Fleet.tunnelAt]
    cases hx : f.slot? c j with
    | none => simp [hx] at h
    | some x =>
        rw [hx] at h
        exact hchange x h
  · exact h

theorem tunnelAt_of_markReplacing {f g : Fleet} {b i c j : Nat} {new : Option Bool}
    (hmark : f.markReplacing b i = (new, g)) (h : (g.tunnelAt c j).isSome = true) :
    (f.tunnelAt c j).isSome = true := by
  obtain ⟨-, heq⟩ | ⟨x, -, -, heq⟩ | ⟨x, -, -, heq⟩ := f.markReplacing_cases b i
  · rw [heq] at hmark
    exact (Prod.mk.inj hmark).2 ▸ h
  · rw [heq] at hmark
    exact (Prod.mk.inj hmark).2 ▸ h
  · rw [heq] at hmark
    rw [← (Prod.mk.inj hmark).2] at h
    exact tunnelAt_of_modifySlot (fun y => { y with replacing := true }) (fun _ hx => hx) h

/-- A new instance has no tunnel. -/
theorem tunnelAt_withBackend {s : Scheduler} {a : String} {b i : Nat}
    (h : ((s.withBackend a).tunnelAt b i).isSome = true) : (s.tunnelAt b i).isSome = true := by
  rw [tunnelAt, Fleet.tunnelAt, Fleet.slot?, withBackend, Fleet.backend?, Fleet.addBackend,
    Array.getElem?_push] at h
  split at h
  · simp [Backend.create, List.getElem?_replicate] at h
    split at h <;> simp at h
  · exact h

/-- A tunnel appears in a slot only when the scheduler is handed it, and then it is
about to let the instance take requests. -/
theorem tunnelAt_perform (s : Scheduler) (task : Task) {b i : Nat}
    (h : ((s.perform task).1.tunnelAt b i).isSome = true) :
    (s.tunnelAt b i).isSome = true ∨ .connected b ∈ (s.perform task).2 := by
  by_cases hmoves : task.movesTunnels = false
  · left
    have htraffic := traffic_congr (perform_of_quiet s hmoves).1 []
    rw [← tunnelAt_traffic _ [], htraffic, tunnelAt_traffic] at h
    exact h
  cases task with
  | inspect c j => exact .inl h
  | close t => exact .inl h
  | failure f =>
      left
      simp only [perform] at h
      split at h <;> exact h
  | weigh c j t =>
      left
      simp only [perform] at h
      split at h
      · split at h
        · next hmark => exact tunnelAt_of_markReplacing hmark h
        · exact h
      · exact h
  | mark c j =>
      left
      simp only [perform] at h
      split at h
      · next hmark => exact tunnelAt_of_markReplacing hmark h
      · next hmark => exact tunnelAt_of_markReplacing hmark h
  | empty c j =>
      left
      simp only [perform] at h
      split at h
      · next t ht =>
        obtain ⟨-, hevict⟩ | ⟨-, hevict⟩ := s.fleet.evict_cases c j t
        · rw [hevict] at h
          exact tunnelAt_of_modifySlot (fun x => { x with tunnel := none })
            (fun _ hx => by contradiction) h
        · rw [hevict] at h
          exact h
      · exact h
  | remove a =>
      left
      cases hb : s.tracked? a with
      | none =>
          rw [perform_remove_none s hb] at h
          exact h
      | some c =>
          simp only [perform, hb] at h
          have hsame := s.tunnelAt_modifyBackend c (fun x => { x with retired := true }) b i
            fun _ => rfl
          exact hsame ▸ h
  | arrive a =>
      left
      obtain ⟨-, heq⟩ | ⟨-, -, heq⟩ | ⟨-, -, heq⟩ := s.perform_arrive_cases a
      · rw [heq] at h
        exact h
      · rw [heq] at h
        exact tunnelAt_withBackend (a := a) h
      · rw [heq] at h
        exact tunnelAt_withBackend (a := a) h
  | handover v =>
      simp only [perform] at h ⊢
      split at h
      · exact .inl h
      · next hcurrent =>
        rw [if_neg hcurrent]
        split at h
        · next x hslot =>
          by_cases hb : b = v.backend
          · right
            rw [hb]
            exact List.mem_append_right _ (List.mem_singleton_self _)
          · left
            rw [tunnelAt, modifyBackend, Fleet.modifyBackend_install, Fleet.tunnelAt,
              Fleet.slot?_modifySlot, if_neg fun heq => hb heq.1] at h
            exact h
        · exact .inl h
  | _ => exact absurd rfl hmoves

/-- Nobody but the scheduler puts tunnels into slots. -/
theorem Work.tunnelAt {s t : Scheduler} (h : s.Work t) {b i : Nat}
    (ht : (t.tunnelAt b i).isSome = true) : (s.tunnelAt b i).isSome = true := by
  cases h with
  | post | dialed | undialed | retune | tick => exact ht
  | session h =>
      obtain ⟨x, -, hmoves⟩ := stepSession?_cases h
      cases hmoves with
      | hands =>
          unfold handOver at ht
          split at ht <;> exact ht
      | ends | goes => exact ht
  | forward reach h =>
      obtain ⟨f, -, hmoves⟩ := stepForward?_cases h
      cases hmoves with
      | releases => exact ht
      | reports =>
          rwa [report_keeps (·.tunnelAt b i) fun _ _ _ _ => rfl] at ht
      | @advances stage g _ _ htouches _ =>
          change (g.tunnelAt b i).isSome = true at ht
          change (s.fleet.tunnelAt b i).isSome = true
          cases htouches with
          | nothing _ _ _ _ hbackends =>
              rw [Fleet.tunnelAt, Fleet.slot?, Fleet.backend?, hbackends] at ht
              exact ht
          | evicts x _ _ _ _ _ hbackends =>
              rw [Fleet.tunnelAt, Fleet.slot?, Fleet.backend?, hbackends] at ht
              exact tunnelAt_of_modifySlot (fun y => { y with tunnel := none })
                (fun _ hx => by contradiction) ht
          | closes x _ _ _ _ hfleet =>
              rw [hfleet] at ht
              exact ht
          | reports x _ _ _ _ hbackends =>
              rw [Fleet.tunnelAt, Fleet.slot?, Fleet.backend?, hbackends] at ht
              exact ht
  | spliced moved h =>
      obtain ⟨g, outcome, heq, -, -, -, hview⟩ := endSplice_eq h moved
      rw [heq] at ht
      have hsame := tunnelAt_congr (s := s) (t := { s with fleet := g })
        (hview Backend.slots fun _ _ _ => rfl) b i
      change (({ s with fleet := g }).tunnelAt b i).isSome = true at ht
      exact hsame ▸ ht

/-- An instance that waits for its first tunnel after a task waited for it before, and
was not let take requests, or is new. -/
theorem connecting_perform {s : Scheduler} {most : Nat} (h : s.roster.Sound most) (task : Task)
    {a : String} {b : Nat} (hb : (s.perform task).1.connecting.find? a = some b) :
    (s.connecting.find? a = some b ∧ task ≠ .connected b) ∨ b = s.fleet.backends.size := by
  by_cases hkeeps : task.keepsTables = true
  · obtain ⟨pool, heq, -⟩ := perform_repools h hkeeps
    have hconnecting : (s.perform task).1.connecting = s.connecting := congrArg Roster.connecting heq
    rw [hconnecting] at hb
    refine .inl ⟨hb, ?_⟩
    rintro rfl
    contradiction
  cases task with
  | remove c =>
      cases hc : s.tracked? c with
      | none =>
          rw [perform_remove_none s hc] at hb
          exact .inl ⟨hb, by simp⟩
      | some d =>
          have hconnecting : (s.perform (.remove c)).1.connecting =
              if s.schedulable.contains c then s.connecting else s.connecting.erase c :=
            congrArg Roster.connecting (perform_remove s hc).1
          rw [hconnecting] at hb
          refine .inl ⟨?_, by simp⟩
          split at hb
          · exact hb
          · rw [Directory.find?_erase] at hb
            split at hb
            · contradiction
            · exact hb
  | arrive c =>
      obtain ⟨-, heq⟩ | ⟨-, -, heq⟩ | ⟨-, -, heq⟩ := s.perform_arrive_cases c
      · rw [heq] at hb
        exact .inl ⟨hb, by simp⟩
      · rw [heq] at hb
        exact .inl ⟨hb, by simp⟩
      · rw [heq] at hb
        change (s.connecting.insert c s.fleet.backends.size).find? a = some b at hb
        rw [Directory.find?_insert] at hb
        split at hb
        · exact .inr (Option.some.inj hb).symm
        · exact .inl ⟨hb, by simp⟩
  | connected c =>
      have haddress : s.connecting.find? a = some b → s.address b = a := fun hfind =>
        ((tracked_iff h a b).1 (h.tracked_of_connecting hfind)).2
      simp only [perform] at hb
      split at hb
      · change (s.connecting.erase (s.address c)).find? a = some b at hb
        rw [Directory.find?_erase] at hb
        split at hb
        · contradiction
        · next hne =>
          refine .inl ⟨hb, fun hc => hne ?_⟩
          rw [Task.connected.inj hc, haddress hb]
      · next hnone =>
        refine .inl ⟨hb, fun hc => hnone ?_⟩
        rw [Task.connected.inj hc, haddress hb, Directory.contains, hb]
        rfl
  | _ => exact absurd rfl hkeeps

/-- What tables, pool, index and identities are like between two messages. -/
structure Agrees (s : Scheduler) (most : Nat) : Prop where
  /-- No address is in both tables, or in one of them twice. -/
  disjoint : (s.schedulable.addresses ++ s.connecting.addresses).Nodup
  /-- Each instance is known under its own address. -/
  own_address : ∀ e ∈ s.schedulable.entries ++ s.connecting.entries, s.address e.2 = e.1
  /-- No more addresses are known than there is room for. -/
  room : s.trackedCount ≤ most
  /-- No instance is in the pool twice. -/
  pool_nodup : s.pool.items.toList.Nodup
  /-- Those in the pool take requests. -/
  pooled : ∀ b ∈ s.pool.items, b ∈ s.schedulable.entries.map Prod.snd
  /-- Whether an instance is in the pool is remembered right. -/
  contains : ∀ b, s.pool.contains b = true ↔ b ∈ s.pool.items
  /-- So is its position. -/
  position : ∀ b i, s.pool.position? b = some i ↔ s.pool.items[i]? = some b
  /-- Taking out what is at the position of an instance takes out that instance and no
  other. -/
  removal : ∀ less b i, s.pool.position? b = some i → ∃ pool,
    s.pool.remove less i = (some b, pool) ∧ s.pool.items.Perm (pool.items.push b)
  /-- An instance that waits for its first tunnel is not in the pool and has no tunnel. -/
  connecting : ∀ e ∈ s.connecting.entries, e.2 ∉ s.pool.items ∧ ∀ i, s.tunnelAt e.2 i = none
  /-- An instance was given up if and only if it is no longer known. -/
  retired_iff : ∀ b x, s.fleet.backend? b = some x →
    (x.retired = true ↔ ∀ a, s.tracked? a ≠ some b)
  /-- No two instances have one rank, and the next rank is new. -/
  weights : ∀ b x, s.fleet.backend? b = some x → x.weight < s.nextWeight ∧
    ∀ c y, s.fleet.backend? c = some y → x.weight = y.weight → b = c
  /-- The statistics list addresses in byte order, each once. -/
  stats_sorted : (s.stats.backends.map BackendStats.address).Pairwise (· < ·)
  /-- The size of the pool is the number of those shown to be in it. -/
  stats_poolSize : s.stats.poolSize = s.stats.backends.countP BackendStats.inPool

/-- The rank of an instance is the number of those created before it, -/
theorem backend_weight_eq {s : Scheduler} {most : Nat} (h : s.roster.Sound most) {b : Nat} {x : Backend}
    (hx : s.fleet.backend? b = some x) : x.weight = b := by
  refine h.weights b x.identity ?_
  rw [getElem?_identities, hx]
  rfl

/-- and the next one will have the number of all. -/
theorem nextWeight_eq {s : Scheduler} {most : Nat} (h : s.roster.Sound most) :
    s.nextWeight = s.fleet.backends.size := by
  rw [← length_identities]
  exact h.nextWeight_eq

/-- All of it follows from what is true of every moment, and from the connecting
instances having no tunnels. -/
theorem agrees_of_sound {s : Scheduler} {most : Nat} (h : s.roster.Sound most)
    (hunopened : ∀ a b i, s.connecting.find? a = some b → s.tunnelAt b i = none) :
    s.Agrees most where
  disjoint := by
    have hnodup := nodup_addresses h
    rw [entries, List.map_append] at hnodup
    exact hnodup
  own_address e he := by
    obtain ⟨x, hx, haddress⟩ := backend?_of_mem_entries h he
    rw [address, hx]
    exact haddress
  room := h.room
  pool_nodup := h.indexed.nodup
  pooled b hb := by
    obtain ⟨a, ha⟩ := h.pooled b hb
    exact List.mem_map_of_mem (f := Prod.snd) (Directory.mem_entries_of_find? ha)
  contains := h.indexed.contains_iff
  position := h.indexed
  removal less b i hb := by
    obtain ⟨pool, hremove, -, hperm⟩ := Pool.remove_some less h.indexed ((h.indexed b i).1 hb)
    exact ⟨pool, hremove, hperm⟩
  connecting e he := by
    have hfind : s.connecting.find? e.1 = some e.2 :=
      (h.connecting_unique.find?_eq_some_iff e.1 e.2).2 he
    refine ⟨fun hb => ?_, fun i => hunopened e.1 e.2 i hfind⟩
    obtain ⟨a, ha⟩ := h.pooled e.2 hb
    have hsame := h.tracked_address (Roster.Sound.tracked_of_schedulable ha)
      (h.tracked_of_connecting hfind)
    rw [hsame, h.find?_schedulable_eq_none hfind] at ha
    contradiction
  retired_iff b x hx := by
    have hretired : s.isRetired b = x.retired := by
      rw [isRetired, hx]
      rfl
    constructor
    · intro hr a ha
      have hlive := ((tracked_iff h a b).1 ha).1
      rw [hretired, hr] at hlive
      contradiction
    · intro hnone
      cases hr : x.retired with
      | true => rfl
      | false => exact absurd ((tracked_iff h _ b).2 ⟨hretired.trans hr, rfl⟩) (hnone (s.address b))
  weights b x hx := by
    refine ⟨?_, fun c y hy heq => ?_⟩
    · rw [backend_weight_eq h hx, nextWeight_eq h]
      exact (Array.getElem?_eq_some_iff.1 hx).1
    · rw [← backend_weight_eq h hx, heq, backend_weight_eq h hy]
  stats_sorted := Scheduler.stats_sorted h
  stats_poolSize := Scheduler.stats_poolSize h

end Scheduler

namespace Run

open Scheduler World

variable {settings : Settings} {permits : Nat} {w : World} {past : List World}

/-- If an instance that waits for its first tunnel has one, the scheduler is about to
let it take requests. -/
theorem unopened (run : Run settings permits (w :: past)) :
    ∀ a b i, w.scheduler.connecting.find? a = some b →
      (w.scheduler.tunnelAt b i).isSome = true → .connected b ∈ w.tasks := by
  induction run using Run.induct with
  | initial =>
      intro a b i hb
      contradiction
  | @kept w w' past run step ih =>
      intro a b i hb ht
      have hroster := run.sound.roster
      cases step with
      | @perform task rest htasks =>
          obtain ⟨hold, hne⟩ | hnew := connecting_perform hroster task hb
          · obtain hthere | hconnected := tunnelAt_perform w.scheduler task ht
            · have hmem := ih a b i hold hthere
              rw [htasks] at hmem
              exact List.mem_append_right _ ((List.mem_cons.1 hmem).resolve_left (Ne.symm hne))
            · exact List.mem_append_left _ hconnected
          · obtain hthere | hconnected := tunnelAt_perform w.scheduler task ht
            · rw [tunnelAt, Fleet.tunnelAt, Fleet.slot?, Fleet.backend?, hnew,
                Array.getElem?_eq_none (Nat.le_refl _)] at hthere
              contradiction
            · exact List.mem_append_left _ hconnected
      | receive htasks hreceives =>
          have hmem := ih a b i (by cases hreceives <;> exact hb) (by cases hreceives <;> exact ht)
          rw [htasks] at hmem
          contradiction
      | query htasks =>
          have hmem := ih a b i hb ht
          rw [htasks] at hmem
          contradiction
      | arrive _ haccept =>
          obtain rfl := accept?_eq haccept
          exact ih a b i hb ht
      | @work s h =>
          have hconnecting : s.connecting = w.scheduler.connecting :=
            congrArg Roster.connecting h.roster_eq
          exact ih a b i (hconnecting ▸ hb) (h.tunnelAt ht)

/-- **No rank overflows** before there are as many instances as 64-bit words. -/
theorem weights_fit (run : Run settings permits (w :: past))
    (hfew : w.scheduler.fleet.backends.size < UInt64.size) :
    w.scheduler.nextWeight < UInt64.size ∧
      ∀ b x, w.scheduler.fleet.backend? b = some x → x.weight < UInt64.size := by
  have hsound := run.sound.roster
  refine ⟨(nextWeight_eq hsound).trans_lt hfew, fun b x hx => ?_⟩
  rw [backend_weight_eq hsound hx]
  exact (Array.getElem?_eq_some_iff.1 hx).1.trans hfew

/-- **Between two messages tables, pool, index and identities agree**, whatever came
before. -/
theorem tables_agree (run : Run settings permits (w :: past)) (h : w.tasks = []) :
    w.scheduler.Agrees settings.maxBackends := by
  have hsettings : w.scheduler.settings = settings := congrArg Prod.fst run.fixed
  have hsound := run.sound.roster
  rw [hsettings] at hsound
  refine agrees_of_sound hsound fun a b i hb => ?_
  cases ht : w.scheduler.tunnelAt b i with
  | none => rfl
  | some t =>
      have hmem := run.unopened a b i hb (by rw [ht]; rfl)
      rw [h] at hmem
      contradiction

/-- A history in which two instances were added: both are in the pool and are shown. -/
theorem tables_agree_of_arrivals :
    ∃ w past, Run ⟨.leastLoaded, false, 2, 1, 0, ⟨0, 0⟩, default⟩ 1 (w :: past) ∧ w.tasks = [] ∧
      w.scheduler.Agrees 2 ∧ w.scheduler.stats.backends.countP BackendStats.inPool = 2 := by
  have begun := @Run.start ⟨.leastLoaded, false, 2, 1, 0, ⟨0, 0⟩, default⟩ 1
  have posted := begun.step (.work (.post (.ofHealthy ["a", "b"])))
  have opened := posted.step
    (.receive rfl (.snapshot rfl) (.snapshot _ (by decide) .rfl .rfl (.inl rfl)))
  have revived := (opened.step (step_next (by decide +kernel))).step (step_next (by decide +kernel))
  have arrived := (revived.step (step_next (by decide +kernel))).step (step_next (by decide +kernel))
  have ready := (arrived.step (step_next (by decide +kernel))).step (step_next (by decide +kernel))
  obtain ⟨w, past, run, hidle, hpool⟩ :
      ∃ w past, Run ⟨.leastLoaded, false, 2, 1, 0, ⟨0, 0⟩, default⟩ 1 (w :: past) ∧
        w.tasks = [] ∧ w.scheduler.pool.size = 2 :=
    ⟨_, _, ready, by decide +kernel, by decide +kernel⟩
  have hagrees := tables_agree run hidle
  exact ⟨w, past, run, hidle, hagrees, hagrees.stats_poolSize.symm.trans hpool⟩

end Run

end StreamBalancer
