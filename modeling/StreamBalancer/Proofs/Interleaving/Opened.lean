import StreamBalancer.Proofs.Interleaving.Numbers
import StreamBalancer.Proofs.Interleaving.Plan
import StreamBalancer.Proofs.Interleaving.Tunnels

/-!
# StreamBalancer.Proofs.Interleaving.Opened

An instance with slots takes requests only after there was a tunnel in one of them
(`Life.opened`).

1. All instances have as many slots as the settings say, at every moment
   (`slotCounts_perform`, `Work.slotCounts_eq`).
2. So whatever is on its way to a slot finds one there (`World.Fits`).
-/

namespace StreamBalancer

/-- How many slots each instance has. -/
def Fleet.slotCounts (f : Fleet) : List Nat := f.backends.toList.map fun x => x.slots.length

theorem Fleet.slotCounts_modifySlot (f : Fleet) (b i : Nat) (change : Slot → Slot) :
    (f.modifySlot b i change).slotCounts = f.slotCounts :=
  map_modifyBackend _ fun _ _ => List.length_modify ..

theorem Fleet.slotCounts_of_markReplacing {f g : Fleet} {b i : Nat} {new : Option Bool}
    (h : f.markReplacing b i = (new, g)) : g.slotCounts = f.slotCounts := by
  obtain ⟨-, heq⟩ | ⟨x, -, -, heq⟩ | ⟨x, -, -, heq⟩ := f.markReplacing_cases b i
  all_goals
    rw [heq] at h
    obtain rfl := (Prod.mk.inj h).2
  · rfl
  · rfl
  · exact f.slotCounts_modifySlot b i _

namespace Scheduler

/-! ## Slots -/

/-- Only a new instance has new slots, as many as the settings say. -/
theorem slotCounts_perform (s : Scheduler) (task : Task) :
    (s.perform task).1.fleet.slotCounts = s.fleet.slotCounts ∨
      (s.perform task).1.fleet.slotCounts = s.fleet.slotCounts ++ [s.settings.tunnelCount] := by
  by_cases hmoves : task.movesTunnels = false
  · have hstands := congrArg (fun l => (Prod.fst l).map fun x => x.slots.length)
      (perform_of_quiet s hmoves).1
    simp only [stock, List.map_map] at hstands
    exact .inl hstands
  cases task with
  | inspect | close => exact .inl rfl
  | failure f =>
      left
      simp only [perform]
      split <;> rfl
  | weigh b i t =>
      left
      simp only [perform]
      split
      · split
        · next hmark =>
          have hsame := Fleet.slotCounts_of_markReplacing hmark
          exact hsame
        · rfl
      · rfl
  | mark b i =>
      left
      simp only [perform]
      split
      · next hmark => exact Fleet.slotCounts_of_markReplacing hmark
      · next hmark => exact Fleet.slotCounts_of_markReplacing hmark
  | empty b i =>
      left
      simp only [perform]
      split
      · next t _ =>
        obtain ⟨-, hevict⟩ | ⟨-, hevict⟩ := s.fleet.evict_cases b i t <;> rw [hevict]
        exact s.fleet.slotCounts_modifySlot b i _
      · rfl
  | remove a =>
      left
      cases hb : s.tracked? a with
      | none => rw [perform_remove_none s hb]
      | some b =>
          simp only [perform, hb]
          exact Fleet.map_modifyBackend _ fun _ _ => rfl
  | arrive a =>
      have hnew : (s.withBackend a).fleet.slotCounts =
          s.fleet.slotCounts ++ [s.settings.tunnelCount] := by
        simp [Fleet.slotCounts, withBackend, Fleet.addBackend, Backend.create]
      obtain ⟨-, heq⟩ | ⟨-, -, heq⟩ | ⟨-, -, heq⟩ := perform_arrive_cases s a
      · exact .inl (by rw [heq])
      · exact .inr (by rw [heq]; exact hnew)
      · exact .inr (by rw [heq]; exact hnew)
  | handover v =>
      left
      simp only [perform]
      split
      · rfl
      · split
        · rw [modifyBackend, Fleet.modifyBackend_install]
          exact s.fleet.slotCounts_modifySlot v.backend v.slot _
        · rfl
  | _ => exact absurd rfl hmoves

/-- Nobody but the scheduler makes slots. -/
theorem Work.slotCounts_eq {s t : Scheduler} (h : s.Work t) :
    t.fleet.slotCounts = s.fleet.slotCounts := by
  cases h with
  | post | dialed | undialed | retune | tick => rfl
  | session h =>
      obtain ⟨x, -, hmoves⟩ := stepSession?_cases h
      cases hmoves with
      | hands =>
          unfold handOver
          split <;> rfl
      | ends | goes => rfl
  | spliced moved h =>
      obtain ⟨g, outcome, heq, -, -, -, hview⟩ := endSplice_eq h moved
      rw [heq]
      exact hview (fun x => x.slots.length) fun _ _ _ => rfl
  | forward reach h =>
      obtain ⟨f, -, hmoves⟩ := stepForward?_cases h
      cases hmoves with
      | releases => rfl
      | reports => exact report_keeps (·.fleet.slotCounts) (fun _ _ _ _ => rfl) _ _
      | @advances stage g _ _ htouches _ =>
          change g.slotCounts = s.fleet.slotCounts
          cases htouches with
          | nothing _ _ _ _ hbackends | reports _ _ _ _ _ hbackends =>
              rw [Fleet.slotCounts, hbackends]
              rfl
          | evicts x _ _ _ _ _ hbackends =>
              rw [Fleet.slotCounts, hbackends]
              exact s.fleet.slotCounts_modifySlot x.backend x.slot _
          | closes x _ _ _ _ hfleet =>
              rw [hfleet]
              rfl

/-! ## What is on its way to a slot -/

/-- A tunnel is asked for a slot that there is, or for one of a new instance. -/
theorem slot_of_mem_sessions {s : Scheduler} {task : Task} {x : Session}
    (hx : x ∈ (s.perform task).1.sessions) :
    x ∈ s.sessions ∨ x.slot < s.settings.tunnelCount ∨
      (s.slot? x.backend x.slot).isSome = true := by
  obtain ⟨b, slots, hsessions, -, horders⟩ := s.orders_perform task
  rw [hsessions] at hx
  obtain hx | hx := List.mem_append.1 hx
  · exact .inl hx
  obtain ⟨⟨i, n⟩, hi, rfl⟩ := List.mem_map.1 hx
  have hslot : i ∈ slots := List.fst_mem_of_mem_zipIdx hi
  cases horders with
  | nothing => contradiction
  | one h =>
      obtain rfl := List.mem_singleton.1 hslot
      exact .inr (.inr h)
  | every => exact .inr (.inl (List.mem_range.1 hslot))

/-- The messages about health and about tunnels that were not read yet. -/
def inbox (s : Scheduler) : List Snapshot × List Handover := (s.snapshots, s.handovers)

/-- No task sends such a message, or reads one. -/
theorem inbox_perform (s : Scheduler) (task : Task) : (s.perform task).1.inbox = s.inbox :=
  perform_keeps inbox (fun _ _ _ _ _ _ _ _ _ _ _ => rfl) s (.inr fun _ _ _ => rfl)

/-- A new member of the table of those that take requests is a new instance without
slots, or has its first tunnel. -/
theorem schedulable_perform {s : Scheduler} {most : Nat} (h : s.roster.Sound most) {task : Task}
    {a : String} {b : Nat} (hb : (s.perform task).1.schedulable.find? a = some b) :
    s.schedulable.find? a = some b ∨ s.settings.tunnelCount = 0 ∨ task = .connected b := by
  by_cases hkeeps : task.keepsTables = true
  · obtain ⟨pool, heq, -⟩ := perform_repools h hkeeps
    have hsame : (s.perform task).1.schedulable = s.schedulable := congrArg Roster.schedulable heq
    exact .inl (hsame ▸ hb)
  cases task with
  | remove c =>
      cases hc : s.tracked? c with
      | none =>
          rw [perform_remove_none s hc] at hb
          exact .inl hb
      | some d =>
          have hsame : (s.perform (.remove c)).1.schedulable = s.schedulable.erase c :=
            congrArg Roster.schedulable (perform_remove s hc).1
          rw [hsame, Directory.find?_erase] at hb
          split at hb
          · contradiction
          · exact .inl hb
  | arrive c =>
      obtain ⟨-, heq⟩ | ⟨-, hnone, -⟩ | ⟨-, -, heq⟩ := s.perform_arrive_cases c
      · rw [heq] at hb
        exact .inl hb
      · exact .inr (.inl hnone)
      · rw [heq] at hb
        exact .inl hb
  | connected c =>
      simp only [perform] at hb
      split at hb
      · change (s.schedulable.insert (s.address c) c).find? a = some b at hb
        rw [Directory.find?_insert] at hb
        split at hb
        · exact .inr (.inr (congrArg _ (Option.some.inj hb)))
        · exact .inl hb
      · exact .inl hb
  | _ => exact absurd rfl hkeeps

/-- A first tunnel comes with a handover. -/
theorem connected_mem_perform {s : Scheduler} {task : Task} {b : Nat}
    (h : .connected b ∈ (s.perform task).2) :
    ∃ v, task = .handover v ∧ v.backend = b ∧ s.isCurrent b = true := by
  cases task with
  | inspect c i =>
      obtain ⟨t, -, heq⟩ := Option.map_eq_some_iff.1 (Option.mem_toList.1 h)
      contradiction
  | _ => grind [perform]

theorem handover_not_mem_perform (s : Scheduler) (task : Task) (v : Handover) :
    .handover v ∉ (s.perform task).2 := by
  intro h
  cases task with
  | inspect c i =>
      obtain ⟨t, -, heq⟩ := Option.map_eq_some_iff.1 (Option.mem_toList.1 h)
      contradiction
  | _ => grind [perform]

theorem backend?_of_isCurrent {s : Scheduler} {b : Nat} (h : s.isCurrent b = true) :
    (s.fleet.backend? b).isSome = true := by
  rw [isCurrent, isRetired] at h
  cases hb : s.fleet.backend? b with
  | none => simp [hb] at h
  | some x => rfl

/-- A tunnel that is handed over to a slot of an instance not given up is put there. -/
theorem handover_opens {s : Scheduler} {v : Handover} (hcurrent : s.isCurrent v.backend = true)
    (hslot : (s.slot? v.backend v.slot).isSome = true) :
    ((s.perform (.handover v)).1.tunnelAt v.backend v.slot).isSome = true := by
  obtain ⟨x, hx⟩ := Option.isSome_iff_exists.1 hslot
  have hperform : (s.perform (.handover v)).1 =
      s.modifyBackend v.backend fun y => y.install v.slot v.tunnel := by
    simp [perform, hcurrent, hx]
  have hinstalled : (s.modifyBackend v.backend fun y => y.install v.slot v.tunnel).fleet.slot?
      v.backend v.slot = some ⟨some v.tunnel, false⟩ := by
    rw [modifyBackend, Fleet.modifyBackend_install, Fleet.slot?_modifySlot, if_pos ⟨rfl, rfl⟩]
    rw [slot?] at hx
    rw [hx, Option.map_some]
  rw [hperform, tunnelAt, Fleet.tunnelAt, hinstalled]
  rfl

/-- The slots that sessions and handovers name. -/
def namedSlots (s : Scheduler) : List Nat :=
  s.sessions.map Session.slot ++ s.handovers.map Handover.slot

theorem namedSlots_modifySession (s : Scheduler) (n : Nat) {change : Session → Session}
    (h : ∀ x, (change x).slot = x.slot) : (s.modifySession n change).namedSlots ⊆ s.namedSlots := by
  have hslot : ∀ x : Session, (if x.number = n then change x else x).slot = x.slot := by
    intro x
    split
    · exact h x
    · rfl
  simp only [namedSlots, modifySession, List.map_map, Function.comp_def, hslot]
  exact List.Subset.refl _

/-- Nobody but the scheduler names a slot that was not named. -/
theorem Work.namedSlots_subset {s t : Scheduler} (h : s.Work t) : t.namedSlots ⊆ s.namedSlots := by
  have hremove : ∀ n, (s.removeSession n).namedSlots ⊆ s.namedSlots := fun n =>
    ((List.filter_sublist.map Session.slot).append_right _).subset
  cases h with
  | post | retune | tick => exact List.Subset.refl _
  | dialed | undialed =>
      exact namedSlots_modifySession _ _ fun _ => rfl
  | session h =>
      obtain ⟨x, hfind, hmoves⟩ := stepSession?_cases h
      cases hmoves with
      | @hands t _ =>
          have hmem : x.slot ∈ s.namedSlots :=
            List.mem_append_left _ (List.mem_map_of_mem (List.mem_of_find?_eq_some hfind))
          unfold handOver
          split
          · exact hremove _
          · intro i hi
            simp only [namedSlots, List.map_append, ← List.append_assoc] at hi
            obtain hi | hi := List.mem_append.1 hi
            · exact hremove _ hi
            · rw [List.mem_singleton.1 hi]
              exact hmem
      | ends => exact hremove _
      | goes metrics _ _ hkeeps =>
          exact namedSlots_modifySession _ _ fun y => (hkeeps y).2.2
  | forward reach h =>
      obtain ⟨f, -, hmoves⟩ := stepForward?_cases h
      cases hmoves with
      | advances | releases => exact List.Subset.refl _
      | reports =>
          rw [report_keeps namedSlots fun _ _ _ _ => rfl]
          exact List.Subset.refl _
  | spliced moved h =>
      obtain ⟨g, outcome, heq, -⟩ := endSplice_eq h moved
      rw [heq]
      exact List.Subset.refl _

end Scheduler

namespace World

open Scheduler

/-- All instances have as many slots as the settings say, and what is on its way to a
slot names one of them. -/
structure Fits (w : World) : Prop where
  counts : ∀ n ∈ w.scheduler.fleet.slotCounts, n = w.scheduler.settings.tunnelCount
  named : ∀ i ∈ w.scheduler.namedSlots, i < w.scheduler.settings.tunnelCount
  tasks : ∀ v, .handover v ∈ w.tasks → v.slot < w.scheduler.settings.tunnelCount

/-- An instance has exactly the slots that the settings say. -/
theorem Fits.slot?_isSome {w : World} (h : w.Fits) {b i : Nat} :
    (w.scheduler.slot? b i).isSome = true ↔
      (w.scheduler.fleet.backend? b).isSome = true ∧ i < w.scheduler.settings.tunnelCount := by
  rw [Scheduler.slot?, Fleet.slot?]
  cases hb : w.scheduler.fleet.backend? b with
  | none => simp
  | some x =>
      have hmem : x.slots.length ∈ w.scheduler.fleet.slotCounts :=
        List.mem_map_of_mem (Array.mem_toList_iff.2 (Array.mem_of_getElem? hb))
      simp [h.counts _ hmem]

theorem fits_initial (settings : Settings) (permits : Nat) : (initial settings permits).Fits :=
  ⟨fun _ h => absurd h List.not_mem_nil, fun _ h => absurd h List.not_mem_nil,
    fun _ h => absurd h List.not_mem_nil⟩

/-- Every step keeps to the slots that there are. -/
theorem Fits.step {w w' : World} (h : w.Fits) (step : w.Step w') : w'.Fits := by
  cases step with
  | @perform task rest htasks =>
      have hsettings : (w.scheduler.perform task).1.settings = w.scheduler.settings :=
        congrArg Prod.fst (fixed_perform w.scheduler task)
      have hhandovers : (w.scheduler.perform task).1.handovers = w.scheduler.handovers :=
        congrArg Prod.snd (inbox_perform w.scheduler task)
      constructor <;> simp only [hsettings]
      · obtain hsame | hnew := slotCounts_perform w.scheduler task
        · rw [hsame]
          exact h.counts
        · rw [hnew]
          simp only [List.mem_append, List.mem_singleton]
          rintro n (hn | rfl)
          · exact h.counts n hn
          · rfl
      · simp only [namedSlots, hhandovers, List.mem_append, List.mem_map]
        rintro i (⟨x, hx, rfl⟩ | hi)
        · obtain hx | hlt | hslot := slot_of_mem_sessions hx
          · exact h.named _ (List.mem_append_left _ (List.mem_map_of_mem hx))
          · exact hlt
          · exact (h.slot?_isSome.1 hslot).2
        · exact h.named i (List.mem_append_right _ (List.mem_map.2 hi))
      · intro v hv
        obtain hnew | hrest := List.mem_append.1 hv
        · exact absurd hnew (handover_not_mem_perform _ _ v)
        · exact h.tasks v (htasks ▸ List.mem_cons_of_mem _ hrest)
  | @receive e s tasks htasks hreceives hopens =>
      have hfleet : s.fleet.slotCounts = w.scheduler.fleet.slotCounts := by cases hreceives <;> rfl
      have hsettings : s.settings = w.scheduler.settings := congrArg Prod.fst hreceives.fixed_eq
      have hnamed : s.namedSlots ⊆ w.scheduler.namedSlots ∧
          ∀ v, e = .handover v → v.slot ∈ w.scheduler.namedSlots := by
        cases hreceives with
        | handover hh => simp [namedSlots, hh]
        | _ => exact ⟨fun _ hi => hi, fun _ h => by contradiction⟩
      constructor <;> simp only [hsettings]
      · rw [hfleet]
        exact h.counts
      · exact fun i hi => h.named i (hnamed.1 hi)
      · intro v hv
        refine h.named _ (hnamed.2 v ?_)
        cases hopens with
        | handover u =>
            obtain rfl : v = u := by simpa using hv
            rfl
        | snapshot => simp [sweep] at hv
        | _ => simp at hv
  | query => exact ⟨h.counts, h.named, by simp⟩
  | arrive _ haccept =>
      obtain rfl := accept?_eq haccept
      exact ⟨h.counts, h.named, h.tasks⟩
  | @work s hwork =>
      have hsettings : s.settings = w.scheduler.settings := congrArg Prod.fst hwork.fixed_eq
      constructor <;> simp only [hsettings]
      · rw [hwork.slotCounts_eq]
        exact h.counts
      · exact fun i hi => h.named i (hwork.namedSlots_subset hi)
      · exact h.tasks

end World

namespace Life

open Scheduler World

variable {settings : Settings} {permits : Nat} {w : World} {past : List World}

/-- All that is on its way to a slot finds one, at every moment. -/
theorem fits (life : Life settings permits (w :: past)) : w.Fits := by
  induction life using Life.induct with
  | initial => exact fits_initial settings permits
  | signalled _ ih => exact ⟨ih.counts, ih.named, ih.tasks⟩
  | kept _ step ih => exact ih.step step

/-- **An instance with slots has had a tunnel** when it takes requests, or is about to. -/
theorem opened (life : Life settings permits (w :: past)) (hcount : settings.tunnelCount ≠ 0)
    {b : Nat} (hb : (∃ a, w.scheduler.schedulable.find? a = some b) ∨ .connected b ∈ w.tasks) :
    ∃ v ∈ w :: past, ∃ i, (v.scheduler.tunnelAt b i).isSome = true := by
  have hearlier : ∀ {w' w : World} {past : List World},
      (∃ v ∈ w :: past, ∃ i, (v.scheduler.tunnelAt b i).isSome = true) →
        ∃ v ∈ w' :: w :: past, ∃ i, (v.scheduler.tunnelAt b i).isSome = true :=
    fun ⟨v, hv, hi⟩ => ⟨v, List.mem_cons_of_mem _ hv, hi⟩
  induction life using Life.induct with
  | initial =>
      obtain ⟨a, ha⟩ | hmem := hb
      · contradiction
      · contradiction
  | signalled _ ih => exact hearlier (ih hb)
  | @kept w w' past life step ih =>
      cases step with
      | @perform task rest htasks =>
          obtain ⟨a, ha⟩ | hmem := hb
          · obtain hold | hnone | rfl := schedulable_perform life.sound.roster ha
            · exact hearlier (ih (.inl ⟨a, hold⟩))
            · rw [life.steady.1] at hnone
              contradiction
            · exact hearlier (ih (.inr (htasks ▸ List.mem_cons_self)))
          · obtain hnew | hrest := List.mem_append.1 hmem
            · obtain ⟨v, rfl, rfl, hcurrent⟩ := connected_mem_perform hnew
              have hslot := life.fits.tasks v (htasks ▸ List.mem_cons_self)
              exact ⟨_, List.mem_cons_self, v.slot, handover_opens hcurrent
                (life.fits.slot?_isSome.2 ⟨backend?_of_isCurrent hcurrent, hslot⟩)⟩
            · exact hearlier (ih (.inr (htasks ▸ List.mem_cons_of_mem _ hrest)))
      | receive htasks hreceives hopens =>
          obtain ⟨a, ha⟩ | hmem := hb
          · exact hearlier (ih (.inl ⟨a, by cases hreceives <;> exact ha⟩))
          · cases hopens with
            | snapshot => simp [sweep] at hmem
            | _ => simp at hmem
      | query =>
          obtain ha | hmem := hb
          · exact hearlier (ih (.inl ha))
          · simp at hmem
      | arrive _ haccept =>
          obtain rfl := accept?_eq haccept
          exact hearlier (ih hb)
      | @work s hwork =>
          have hsame : s.schedulable = w.scheduler.schedulable :=
            congrArg Roster.schedulable hwork.roster_eq
          simp only [hsame] at hb
          exact hearlier (ih hb)

end Life

end StreamBalancer
