import StreamBalancer.Proofs.Interleaving.Chronicle
import StreamBalancer.Proofs.Interleaving.Opened

/-!
# StreamBalancer.Proofs.Interleaving.Stretch

A history is cut into stretches by the snapshots that are not ignored.

1. `World.turns` reads off a step that the scheduler turns to such a snapshot, and
   `World.lastUp` is the last one that it has turned to.
2. `World.stretch` is the part of a history since then.
3. All addresses that are known are up in that snapshot, but for those that are about
   to be removed (`Life.covered`).
-/

namespace StreamBalancer

namespace Snapshot

/-- Whether an address is up. -/
def hasUp (x : Snapshot) : Bool := x.entries.any fun e => e.2.isUp

theorem mem_healthy (x : Snapshot) (a : String) : a ∈ x.healthy ↔ (a, .up) ∈ x.entries := by
  rw [healthy, Addresses.mem_ofList, List.mem_map]
  constructor
  · rintro ⟨⟨k, health⟩, he, rfl⟩
    obtain ⟨he, hup⟩ := List.mem_filter.1 he
    cases health with
    | up => exact he
    | down => contradiction
  · exact fun he => ⟨_, List.mem_filter.2 ⟨he, rfl⟩, rfl⟩

theorem hasUp_iff (x : Snapshot) : x.hasUp = true ↔ x.healthy ≠ [] := by
  rw [hasUp, List.any_eq_true]
  constructor
  · rintro ⟨⟨a, health⟩, he, hup⟩
    cases health with
    | up => exact List.ne_nil_of_mem ((x.mem_healthy a).2 he)
    | down => contradiction
  · intro h
    obtain ⟨a, ha⟩ := List.exists_mem_of_ne_nil _ h
    exact ⟨_, (x.mem_healthy a).1 ha, rfl⟩

end Snapshot

namespace World

open Scheduler

/-! ## Stretches -/

/-- The snapshot to which the scheduler turns, unless no address is up in it. -/
def turns (w w' : World) : Option Snapshot :=
  (lost? w.scheduler.snapshots w'.scheduler.snapshots).filter Snapshot.hasUp

/-- The part of a history since the scheduler last turned to a snapshot. -/
def stretch : List World → List World
  | w' :: w :: past => if (w.turns w').isSome then [w'] else w' :: stretch (w :: past)
  | h => h

/-- The snapshot to which the scheduler last turned. -/
def lastUp (h : List World) : Option Snapshot := (gather turns h).getLast?

variable {w w' : World} {past : List World}

theorem stretch_cons (w : World) (past : List World) : ∃ rest, stretch (w :: past) = w :: rest := by
  cases past with
  | nil => exact ⟨[], rfl⟩
  | cons v past =>
      rw [stretch]
      split
      · exact ⟨[], rfl⟩
      · exact ⟨_, rfl⟩

/-- A reading of a stretch starts anew with it. -/
theorem gather_stretch {α : Type} (observe : World → World → Option α) (w' w : World)
    (past : List World) :
    gather observe (stretch (w' :: w :: past)) =
      if (w.turns w').isSome then [] else
        gather observe (stretch (w :: past)) ++ (observe w w').toList := by
  rw [stretch]
  split
  · rfl
  · obtain ⟨rest, heq⟩ := stretch_cons w past
    rw [heq]
    rfl

theorem mem_gather_stretch {α : Type} {observe : World → World → Option α} {x : α} :
    ∀ {h : List World}, x ∈ gather observe (stretch h) → x ∈ gather observe h
  | [], hx => hx
  | [_], hx => hx
  | w' :: w :: past, hx => by
      rw [gather_stretch] at hx
      rw [gather_cons]
      split at hx
      · contradiction
      · obtain hx | hx := List.mem_append.1 hx
        · exact List.mem_append_left _ (mem_gather_stretch hx)
        · exact List.mem_append_right _ hx

theorem lastUp_cons (w' w : World) (past : List World) :
    lastUp (w' :: w :: past) = (w.turns w').or (lastUp (w :: past)) := by
  rw [lastUp, gather_cons, List.getLast?_append, lastUp]
  cases w.turns w' <;> rfl

theorem turns_of_eq (h : w'.scheduler.snapshots = w.scheduler.snapshots) : w.turns w' = none := by
  simp [turns, h]

theorem turns_signal (w : World) :
    w.turns { w with scheduler := w.scheduler.signal } = none := turns_of_eq rfl

theorem turns_of_post {x : Snapshot}
    (h : w'.scheduler.snapshots = w.scheduler.snapshots ++ [x]) : w.turns w' = none := by
  simp [turns, h]

/-- The scheduler turns to a snapshot in which an address is up. -/
theorem turns_of_receive {x : Snapshot} {s : Scheduler} (h : w.scheduler.Receives (.snapshot x) s)
    (hhealthy : x.healthy ≠ []) (tasks : List Task) :
    w.turns { w with scheduler := s, tasks } = some x := by
  cases h with
  | snapshot hsnapshots => simp [turns, hsnapshots, x.hasUp_iff.2 hhealthy]

/-! ## The last snapshot -/

/-- An address is up in the snapshot to which the scheduler last turned. -/
def Up (h : List World) (a : String) : Prop := ∃ x, lastUp h = some x ∧ (a, .up) ∈ x.entries

theorem up_of_turns_none (h : w.turns w' = none) (a : String) :
    Up (w' :: w :: past) a ↔ Up (w :: past) a := by
  rw [Up, lastUp_cons, h, Option.none_or, Up]

theorem up_of_turns {x : Snapshot} (h : w.turns w' = some x) (a : String) :
    Up (w' :: w :: past) a ↔ (a, .up) ∈ x.entries := by
  simp [Up, lastUp_cons, h]

/-- The addresses that are known, and those about to be added, are up in the last
snapshot, but for those about to be removed. -/
structure Covered (w : World) (past : List World) : Prop where
  tracked : ∀ a, w.scheduler.tracked? a ≠ none → Up (w :: past) a ∨ .remove a ∈ w.tasks
  arriving : ∀ a, .arrive a ∈ w.tasks → Up (w :: past) a

end World

namespace Scheduler

theorem tracked?_perform_remove {s : Scheduler} {most : Nat} (h : s.roster.Sound most)
    (a : String) : (s.perform (.remove a)).1.tracked? a = none := by
  cases hb : s.tracked? a with
  | none => rw [perform_remove_none s hb, hb]
  | some b =>
      change (s.perform (.remove a)).1.roster.tracked? a = none
      rw [(perform_remove s hb).1, h.tracked?_strike, if_pos rfl]

/-- A known address is removed if it is not healthy. -/
theorem mem_gone {s : Scheduler} {healthy : List String} {a : String} (ha : s.tracked? a ≠ none)
    (hnot : a ∉ healthy) : a ∈ s.gone healthy := by
  refine List.mem_filter.2 ⟨?_, by simpa using hnot⟩
  by_contra hmem
  simp only [List.mem_append, not_or] at hmem
  apply ha
  rw [tracked?, (Directory.find?_eq_none_iff _ _).2 hmem.1,
    (Directory.find?_eq_none_iff _ _).2 hmem.2]
  rfl

/-- Only healthy addresses are added. -/
theorem MayArrive.mem_healthy {s : Scheduler} {healthy arrivals : List String}
    (h : s.MayArrive (s.fresh healthy) arrivals) {a : String} (ha : a ∈ arrivals) :
    a ∈ healthy := by
  obtain rfl | ⟨-, -, hperm⟩ := h
  · exact (List.mem_filter.1 ha).1
  · exact (List.mem_filter.1 (hperm.mem_iff.1 ha)).1

/-- Helpers send snapshots and read none. -/
theorem Work.snapshots_cases {s t : Scheduler} (h : s.Work t) :
    t.snapshots = s.snapshots ∨ ∃ x, t.snapshots = s.snapshots ++ [x] := by
  cases h with
  | post x => exact .inr ⟨x, rfl⟩
  | retune | tick | dialed | undialed => exact .inl rfl
  | session h =>
      left
      obtain ⟨x, -, hmoves⟩ := stepSession?_cases h
      cases hmoves with
      | hands =>
          unfold handOver
          split <;> rfl
      | ends | goes => rfl
  | spliced moved h =>
      left
      obtain ⟨g, outcome, heq, -⟩ := endSplice_eq h moved
      rw [heq]
      rfl
  | forward reach h =>
      left
      obtain ⟨f, -, hmoves⟩ := stepForward?_cases h
      cases hmoves with
      | advances | releases => rfl
      | reports => exact report_keeps snapshots (fun _ _ _ _ => rfl) _ _

end Scheduler

namespace World

open Scheduler

variable {w w' : World} {past : List World}

theorem Covered.perform (hsound : w.Sound) (h : w.Covered past) {x : Task} {rest : List Task}
    (htasks : w.tasks = x :: rest) :
    World.Covered { w with
      scheduler := (w.scheduler.perform x).1, tasks := (w.scheduler.perform x).2 ++ rest }
      (w :: past) := by
  have hnone : w.turns { w with
      scheduler := (w.scheduler.perform x).1, tasks := (w.scheduler.perform x).2 ++ rest } = none :=
    turns_of_eq (congrArg Prod.fst (inbox_perform w.scheduler x))
  constructor
  · intro a ha
    rw [up_of_turns_none hnone]
    by_cases hold : w.scheduler.tracked? a = none
    · by_cases hx : x = .arrive a
      · exact .inl (h.arriving a (htasks ▸ hx ▸ List.mem_cons_self))
      · exact absurd (hsound.tracked?_perform htasks hold hx) ha
    · refine (h.tracked a hold).imp_right fun hmem => ?_
      rw [htasks] at hmem
      obtain rfl | hrest := List.mem_cons.1 hmem
      · exact absurd (tracked?_perform_remove hsound.roster a) ha
      · exact List.mem_append_right _ hrest
  · intro a ha
    rw [up_of_turns_none hnone]
    obtain hnew | hrest := List.mem_append.1 ha
    · have hfilling := isFilling_perform _ _ _ hnew
      contradiction
    · exact h.arriving a (htasks ▸ List.mem_cons_of_mem x hrest)

/-- Whoever knows the same addresses and has nothing to add or to remove is covered
still. -/
theorem Covered.of_none (h : w.Covered past) (hnone : w.turns w' = none)
    (htracked : ∀ a, w'.scheduler.tracked? a = w.scheduler.tracked? a)
    (hremove : ∀ a, .remove a ∈ w.tasks → .remove a ∈ w'.tasks)
    (harrive : ∀ a, .arrive a ∈ w'.tasks → .arrive a ∈ w.tasks) : w'.Covered (w :: past) where
  tracked a ha := by
    rw [up_of_turns_none hnone]
    exact (h.tracked a (htracked a ▸ ha)).imp_right (hremove a)
  arriving a ha := by
    rw [up_of_turns_none hnone]
    exact h.arriving a (harrive a ha)

theorem Covered.receive (h : w.Covered past) (htasks : w.tasks = []) {e : Event} {s : Scheduler}
    {tasks : List Task} (hreceives : w.scheduler.Receives e s) (hopens : s.Opens e tasks) :
    World.Covered { w with scheduler := s, tasks := tasks ++ [.publish] } (w :: past) := by
  have hother : ∀ {x : Task}, (∀ a, x ≠ .arrive a) → s.snapshots = w.scheduler.snapshots →
      s.roster = w.scheduler.roster →
      World.Covered { w with scheduler := s, tasks := [x] ++ [.publish] } (w :: past) := by
    intro x hx hsnapshots hroster
    refine h.of_none (turns_of_eq hsnapshots)
      (fun a => congrArg (Roster.tracked? · a) hroster) (fun a ha => ?_) (fun a ha => ?_)
    · rw [htasks] at ha
      contradiction
    · simp [Ne.symm (hx a)] at ha
  cases hreceives with
  | request | finished | failure | handover =>
      cases hopens
      exact hother (by simp) rfl rfl
  | @snapshot x rest hsnapshots =>
      cases hopens with
      | ignored _ hhealthy =>
          have hdown : x.hasUp = false := by
            rw [← Bool.not_eq_true, x.hasUp_iff]
            exact not_not.2 hhealthy
          refine h.of_none ?_ (fun _ => rfl) (fun a ha => ?_) (fun a ha => ?_)
          · simp [turns, hsnapshots, hdown]
          · rw [htasks] at ha
            contradiction
          · simp at ha
      | @snapshot _ removals revivals arrivals hhealthy hremovals _ harrivals =>
          have hturns := turns_of_receive (.snapshot hsnapshots) hhealthy
            (sweep removals revivals arrivals ++ [.publish])
          constructor
          · intro a ha
            rw [up_of_turns hturns, ← x.mem_healthy]
            by_cases hmem : a ∈ x.healthy
            · exact .inl hmem
            · refine .inr ?_
              have hgone := hremovals.mem_iff.2 (mem_gone ha hmem)
              simp [sweep, hgone]
          · intro a ha
            rw [up_of_turns hturns, ← x.mem_healthy]
            obtain ⟨k, hk⟩ | ⟨k, hk⟩ | ⟨k, hmem, hk⟩ | hk | hk := Sound.mem_sweep ha
            · contradiction
            · contradiction
            · exact Task.arrive.inj hk ▸ harrivals.mem_healthy hmem
            · contradiction
            · contradiction

end World

namespace Life

open Scheduler World

variable {settings : Settings} {permits : Nat} {w : World} {past : List World}

/-- **All addresses that are known are up in the last snapshot**, but for those about to be
removed. -/
theorem covered (life : Life settings permits (w :: past)) : w.Covered past := by
  induction life using Life.induct with
  | initial => exact ⟨fun a ha => absurd rfl ha, fun a ha => absurd ha List.not_mem_nil⟩
  | signalled _ ih => exact ih.of_none (turns_signal _) (fun _ => rfl) (fun _ h => h) fun _ h => h
  | kept life step ih =>
      cases step with
      | perform htasks => exact ih.perform life.sound htasks
      | receive htasks hreceives hopens => exact ih.receive htasks hreceives hopens
      | query htasks =>
          refine ih.of_none (turns_of_eq rfl) (fun _ => rfl) (fun a ha => ?_) (fun a ha => ?_)
          · rw [htasks] at ha
            contradiction
          · simp at ha
      | arrive _ haccept =>
          obtain rfl := accept?_eq haccept
          exact ih.of_none (turns_of_eq rfl) (fun _ => rfl) (fun _ h => h) fun _ h => h
      | work hwork =>
          have htracked := fun a => congrArg (Roster.tracked? · a) hwork.roster_eq
          obtain hsame | ⟨x, hpost⟩ := hwork.snapshots_cases
          · exact ih.of_none (turns_of_eq hsame) htracked (fun _ h => h) fun _ h => h
          · exact ih.of_none (turns_of_post hpost) htracked (fun _ h => h) fun _ h => h

end Life

end StreamBalancer
