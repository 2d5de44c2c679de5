import StreamBalancer.Proofs.Interleaving.Ownership
import StreamBalancer.Proofs.Interleaving.Plan
import StreamBalancer.Proofs.Interleaving.Supply

/-!
# StreamBalancer.Proofs.Interleaving.Slots

What one step can make of a slot, said once for all that is proved about slots
(`World.Step.shift`).

1. Five tasks change slots; what each does to one is told by `slot?_perform`.
2. Of the others only a forward does, which was told that the tunnel in the slot broke
   (`slot?_forward`).
3. A tunnel is asked for a slot exactly when its flag is set anew.
-/

namespace StreamBalancer

/-- Slots are read off the instances. -/
theorem Fleet.slot?_congr {f g : Fleet}
    (h : g.backends.toList.map Backend.slots = f.backends.toList.map Backend.slots) (b i : Nat) :
    g.slot? b i = f.slot? b i := by
  have hread : ∀ f : Fleet, f.slot? b i =
      (f.backends.toList.map Backend.slots)[b]?.bind fun l => l[i]? := by
    intro f
    rw [List.getElem?_map, Array.getElem?_toList, Option.bind_map]
    rfl
  rw [hread, hread, h]

namespace Scheduler

variable {s t : Scheduler}

/-! ## Tasks -/

theorem tunnelAt_of_slot? {b i : Nat} {x : Slot} (h : s.slot? b i = some x) :
    s.tunnelAt b i = x.tunnel := congrArg (Option.bind · Slot.tunnel) h

theorem exists_slot? {b i tunnel : Nat} (h : s.tunnelAt b i = some tunnel) :
    ∃ flag, s.slot? b i = some ⟨some tunnel, flag⟩ := by
  obtain ⟨⟨held, flag⟩, hslot, heq⟩ := Option.bind_eq_some_iff.1 h
  obtain rfl : held = some tunnel := heq
  exact ⟨flag, hslot⟩

/-- Whether there is a slot that is not being replaced. -/
def isFree (s : Scheduler) (b i : Nat) : Bool := (s.slot? b i).any fun x => !x.replacing

/-- Whether a tunnel found in a slot is past the high-water mark, while the slot is not being
replaced. -/
def findsWorn (s : Scheduler) (b i tunnel : Nat) : Bool :=
  decide (s.settings.policy.highWater < s.fleet.nextId tunnel) && s.isFree b i

/-- Ask for a tunnel for a slot and set its flag. -/
def ask (s : Scheduler) (b i : Nat) : Scheduler :=
  ({ s with fleet := s.fleet.modifySlot b i fun x => { x with replacing := true } }).requestSession b i

theorem isFree_of_slot? {b i : Nat} {x : Slot} (h : s.slot? b i = some x) :
    s.isFree b i = !x.replacing := by
  rw [isFree, h, Option.any_some]

/-- The flag of a slot is set anew exactly if the slot is not being replaced. -/
theorem isFree_cases (s : Scheduler) (b i : Nat) :
    (s.isFree b i = false ∧ (s.fleet.markReplacing b i = (none, s.fleet) ∨
        s.fleet.markReplacing b i = (some false, s.fleet))) ∨
      (s.isFree b i = true ∧ s.fleet.markReplacing b i =
        (some true, s.fleet.modifySlot b i fun x => { x with replacing := true })) := by
  obtain ⟨hnone, hmark⟩ | ⟨x, hx, hflag, hmark⟩ | ⟨x, hx, hflag, hmark⟩ :=
    s.fleet.markReplacing_cases b i
  · have hfree : s.isFree b i = false := by rw [isFree, slot?, hnone, Option.any_none]
    exact .inl ⟨hfree, .inl hmark⟩
  · have hfree : s.isFree b i = false := by rw [isFree_of_slot? hx, hflag, Bool.not_true]
    exact .inl ⟨hfree, .inr hmark⟩
  · have hfree : s.isFree b i = true := by rw [isFree_of_slot? hx, hflag, Bool.not_false]
    exact .inr ⟨hfree, hmark⟩

theorem perform_mark (s : Scheduler) (b i : Nat) :
    s.perform (.mark b i) = (if s.isFree b i then s.ask b i else s, []) := by
  obtain ⟨hfree, hmark | hmark⟩ | ⟨hfree, hmark⟩ := s.isFree_cases b i
  all_goals
    rw [perform, hmark, hfree]
    rfl

theorem perform_weigh (s : Scheduler) (b i tunnel : Nat) :
    s.perform (.weigh b i tunnel) =
      (if s.findsWorn b i tunnel then (s.count (.sessions .replaced)).ask b i else s, []) := by
  rw [perform, findsWorn]
  by_cases hworn : s.settings.policy.highWater < s.fleet.nextId tunnel
  · rw [if_pos hworn, decide_eq_true hworn, Bool.true_and]
    obtain ⟨hfree, hmark | hmark⟩ | ⟨hfree, hmark⟩ := s.isFree_cases b i
    all_goals
      rw [hmark, hfree]
      rfl
  · rw [if_neg hworn, decide_eq_false hworn]
    rfl

theorem slot?_ask (s : Scheduler) (b i c j : Nat) :
    (s.ask b i).slot? c j =
      if c = b ∧ j = i then (s.slot? c j).map fun x => { x with replacing := true }
      else s.slot? c j := s.fleet.slot?_modifySlot b i c j _

theorem slot?_ask_of_none {b i c j : Nat} (h : s.slot? c j = none) :
    (s.ask b i).slot? c j = none := by
  rw [slot?_ask, h]
  split <;> rfl

/-- Whether a task may change a slot. -/
def Task.changesSlots : Task → Bool
  | .weigh _ _ _ | .mark _ _ | .empty _ _ | .handover _ | .arrive _ => true
  | _ => false

theorem slot?_perform (s : Scheduler) {task : Task} (h : task.changesSlots = false) (b i : Nat) :
    (s.perform task).1.slot? b i = s.slot? b i := by
  by_cases hmoves : task.movesTunnels = false
  · rw [← slot?_traffic _ [], traffic_congr (perform_of_quiet s hmoves).1, slot?_traffic]
  cases task with
  | inspect | close => rfl
  | failure f =>
      simp only [perform]
      split <;> rfl
  | remove a =>
      cases hb : s.tracked? a with
      | none => rw [perform_remove_none s hb]
      | some c =>
          have hslots : (s.strike a c).fleet.backends.toList.map Backend.slots =
              s.fleet.backends.toList.map Backend.slots := Fleet.map_modifyBackend _ fun _ _ => rfl
          simp only [perform, hb]
          exact Fleet.slot?_congr hslots b i
  | _ => contradiction

theorem slot?_empty (s : Scheduler) (c j b i : Nat) :
    (s.perform (.empty c j)).1.slot? b i =
      if b = c ∧ i = j then (s.slot? b i).map fun x => { x with tunnel := none }
      else s.slot? b i := by
  simp only [perform]
  cases ht : s.tunnelAt c j with
  | none =>
      dsimp only
      split
      · next heq =>
        obtain ⟨rfl, rfl⟩ := heq
        cases hx : s.slot? b i with
        | none => rfl
        | some x =>
            have hnone : x.tunnel = none := (tunnelAt_of_slot? hx).symm.trans ht
            rw [Option.map_some, ← hnone]
      · rfl
  | some t =>
      obtain ⟨-, hevict⟩ | ⟨hne, -⟩ := s.fleet.evict_cases c j t
      · dsimp only
        rw [hevict]
        exact s.fleet.slot?_modifySlot c j b i _
      · exact absurd ht hne

/-- A tunnel that is handed over is put into its slot, if the instance was not given up. -/
theorem slot?_handover (s : Scheduler) (h : Handover) (b i : Nat) :
    (s.perform (.handover h)).1.slot? b i =
      if s.isCurrent h.backend = true ∧ (b, i) = h.place then
        (s.slot? b i).map fun _ => ⟨some h.tunnel, false⟩
      else s.slot? b i := by
  simp only [perform]
  cases hcurrent : s.isCurrent h.backend with
  | false => rfl
  | true =>
      simp only [true_and, Bool.not_true, Bool.false_eq_true, if_false]
      cases hx : s.slot? h.backend h.slot with
      | none =>
          dsimp only
          split
          · next heq =>
            obtain ⟨rfl, rfl⟩ := Prod.mk.inj heq
            rw [hx]
            rfl
          · rfl
      | some x =>
          dsimp only
          rw [modifyBackend, Fleet.modifyBackend_install]
          refine (s.fleet.slot?_modifySlot h.backend h.slot b i _).trans ?_
          simp only [Handover.place, Prod.mk.injEq]
          rfl

/-- A new instance has empty slots. -/
theorem slot?_arrive (s : Scheduler) (a : String) (b i : Nat) :
    (s.perform (.arrive a)).1.slot? b i = s.slot? b i ∨
      (s.slot? b i = none ∧ (s.perform (.arrive a)).1.slot? b i = some {}) := by
  have hnew : (s.withBackend a).slot? b i = s.slot? b i ∨
      (s.slot? b i = none ∧ (s.withBackend a).slot? b i = some {}) := by
    rw [← slot?_traffic s [], ← slot?_traffic (s.withBackend a) []]
    have hlength : (s.traffic []).instances.length = s.fleet.backends.size := by
      rw [traffic, List.length_map, Array.length_toList]
    have hadd := (s.traffic []).slot?_add s.settings.tunnelCount b i
    rw [← traffic_withBackend s [] a s.sessionCount] at hadd
    change ((s.withBackend a).traffic []).slot? b i = _ at hadd
    rw [hadd]
    split
    · next hb =>
      have hnone : (s.traffic []).slot? b i = none := by
        rw [Traffic.slot?, List.getElem?_eq_none (Nat.le_of_eq hb.symm)]
        rfl
      split
      · exact .inr ⟨hnone, rfl⟩
      · exact .inl hnone.symm
    · exact .inl rfl
  obtain ⟨-, heq⟩ | ⟨-, -, heq⟩ | ⟨-, -, heq⟩ := s.perform_arrive_cases a
  · rw [heq]
    exact .inl rfl
  · rw [heq]
    exact hnew
  · rw [heq]
    exact hnew

/-- A task makes no slots, but those of a new instance. -/
theorem slot?_perform_of_none (s : Scheduler) (task : Task) {b i : Nat} (h : s.slot? b i = none) :
    (s.perform task).1.slot? b i = none ∨ (s.perform task).1.slot? b i = some {} := by
  cases task with
  | weigh c j t =>
      left
      rw [perform_weigh]
      split
      · exact slot?_ask_of_none h
      · exact h
  | mark c j =>
      left
      rw [perform_mark]
      split
      · exact slot?_ask_of_none h
      · exact h
  | empty c j =>
      left
      rw [slot?_empty, h]
      split <;> rfl
  | handover hd =>
      left
      rw [slot?_handover, h]
      split <;> rfl
  | arrive a =>
      obtain hsame | ⟨-, hnew⟩ := s.slot?_arrive a b i
      · exact .inl (hsame.trans h)
      · exact .inr hnew
  | _ => exact .inl ((slot?_perform s rfl b i).trans h)

/-! ## Helpers -/

/-- A step of a search leaves the slots alone, or empties the one whose tunnel broke. -/
theorem slot?_step {reach : ListenAddress → Bool} {f g : Fleet} {o o' : Opening}
    (h : o.step? reach f = some (o', g)) :
    (∀ b i, g.slot? b i = f.slot? b i) ∨
      ∃ v held error tunnel, o.phase = .asking v held ∧
        Opening.ask reach f v held = (some (.error error), tunnel) ∧ error.breaksSession = true ∧
        f.tunnelAt o.backend v.slot = some v.tunnel ∧
        ∀ b i, g.slot? b i =
          (f.modifySlot o.backend v.slot fun x => { x with tunnel := none }).slot? b i := by
  obtain ⟨b, start, phase⟩ := o
  cases phase with
  | asking v held =>
      simp only [Opening.step?] at h
      split at h
      · split at h
        · contradiction
        · obtain ⟨-, rfl⟩ := Prod.mk.inj (Option.some.inj h)
          exact .inl fun _ _ => rfl
      · obtain ⟨-, rfl⟩ := Prod.mk.inj (Option.some.inj h)
        exact .inl fun _ _ => rfl
      · next e t hask =>
        obtain rfl := congrArg Prod.snd (Option.some.inj h)
        by_cases hbreaks : e.breaksSession = true
        · obtain ⟨hfleet, -⟩ | ⟨-, hslot, hfleet⟩ :=
            Opening.failed_cases (f.modifyTunnel v.tunnel fun _ => t) ⟨b, start, .asking v held⟩ v e
          · rw [hfleet]
            exact .inl fun _ _ => rfl
          · rw [hfleet]
            exact .inr ⟨v, held, e, t, rfl, hask, hbreaks, hslot, fun _ _ => rfl⟩
        · rw [Opening.failed, if_neg hbreaks]
          exact .inl fun _ _ => rfl
  | found | unreachable => contradiction
  | _ =>
      obtain ⟨-, rfl⟩ := Prod.mk.inj (Option.some.inj h)
      exact .inl fun _ _ => rfl

/-- A session leaves the slots alone. -/
theorem SessionMoves.slot?_eq {x : Session} (h : s.SessionMoves x t) (b i : Nat) :
    t.slot? b i = s.slot? b i := by
  cases h with
  | hands =>
      unfold handOver
      split <;> rfl
  | ends | goes => rfl

end Scheduler

namespace World

open Scheduler

/-- A forward leaves the slots alone, or empties the one whose tunnel it was told broke. -/
theorem slot?_forward {w : World} {reach : ListenAddress → Bool} {r : Nat} {t : Scheduler}
    (h : w.scheduler.stepForward? reach r = some t) :
    (∀ b i, t.slot? b i = w.scheduler.slot? b i) ∨
      ∃ b v, w.SeesBreak reach r b v ∧ w.scheduler.tunnelAt b v.slot = some v.tunnel ∧
        ∀ c j, t.slot? c j = if c = b ∧ j = v.slot then
          (w.scheduler.slot? c j).map fun x => { x with tunnel := none }
        else w.scheduler.slot? c j := by
  unfold stepForward? at h
  cases hf : w.scheduler.forward? r with
  | none =>
      rw [hf] at h
      contradiction
  | some f =>
      rw [hf] at h
      obtain ⟨q, b', stage⟩ := f
      cases stage with
      | opening search =>
          cases hphase : search.phase with
          | found | unreachable =>
              simp only [hphase] at h
              obtain rfl := Option.some.inj h
              exact .inl fun _ _ => rfl
          | _ =>
              simp only [hphase] at h
              obtain ⟨⟨search', g⟩, hstep, rfl⟩ := Option.map_eq_some_iff.1 h
              obtain hsame | ⟨v, held, error, tunnel, hasks, hask, hbreaks, hslot, hnew⟩ :=
                slot?_step hstep
              · exact .inl hsame
              · obtain ⟨c, start, phase⟩ := search
                obtain rfl : phase = _ := hasks
                refine .inr ⟨c, v, ⟨_, start, held, error, tunnel, hf, rfl, hask, hbreaks⟩, hslot,
                  fun d j => ?_⟩
                exact (hnew d j).trans (w.scheduler.fleet.slot?_modifySlot c v.slot d j _)
      | splicing => contradiction
      | starting | ended =>
          obtain rfl := Option.some.inj h
          exact .inl fun _ _ => rfl
      | reporting outcome =>
          obtain rfl := Option.some.inj h
          exact .inl fun b i => report_keeps (fun s => s.slot? b i) (fun _ _ _ _ => rfl) _ _

/-- Nobody but the scheduler changes a slot, except that a forward empties the one whose
tunnel it was told broke. -/
theorem slot?_work {w : World} {t : Scheduler} (h : w.scheduler.Work t) :
    (∀ b i, t.slot? b i = w.scheduler.slot? b i) ∨
      ∃ reach r b v, w.scheduler.stepForward? reach r = some t ∧ w.SeesBreak reach r b v ∧
        w.scheduler.tunnelAt b v.slot = some v.tunnel ∧
        ∀ c j, t.slot? c j = if c = b ∧ j = v.slot then
          (w.scheduler.slot? c j).map fun x => { x with tunnel := none }
        else w.scheduler.slot? c j := by
  cases h with
  | post | dialed | undialed | retune | tick => exact .inl fun _ _ => rfl
  | session h =>
      obtain ⟨x, -, hmoves⟩ := stepSession?_cases h
      exact .inl hmoves.slot?_eq
  | spliced moved h =>
      obtain ⟨g, outcome, heq, -, -, -, hview⟩ := endSplice_eq h moved
      rw [heq]
      exact .inl (Fleet.slot?_congr (hview Backend.slots fun _ _ _ => rfl))
  | @forward r _ reach h =>
      obtain hsame | ⟨b, v, hbreaks⟩ := slot?_forward h
      · exact .inl hsame
      · exact .inr ⟨reach, r, b, v, h, hbreaks⟩

/-! ## What a step does -/

/-- The task that the scheduler does in a step, if it does one. -/
def does (w w' : World) : Option Task := if w'.tasks = w.tasks then none else w.tasks.head?

/-- The world after a task, with the tasks that were left besides. -/
def after (w : World) (x : Task) (rest : List Task) : World :=
  { w with scheduler := (w.scheduler.perform x).1, tasks := (w.scheduler.perform x).2 ++ rest }

/-- No task leads to itself alone. -/
theorem perform_ne (s : Scheduler) (x : Task) (rest : List Task) :
    (s.perform x).2 ++ rest ≠ x :: rest := by
  intro h
  have hself : (s.perform x).2 = [x] := List.append_cancel_right (h.trans List.singleton_append.symm)
  have hmem : x ∈ (s.perform x).2 := hself ▸ List.mem_singleton_self x
  cases x with
  | inspect b i =>
      obtain ⟨t, -, heq⟩ := Option.map_eq_some_iff.1 (Option.mem_toList.1 hmem)
      contradiction
  | drain => grind [perform]
  | _ =>
      clear h hself
      grind [perform]

variable {w w' : World}

theorem does_after {x : Task} {rest : List Task} (h : w.tasks = x :: rest) :
    w.does (w.after x rest) = some x := by
  rw [does, if_neg (h ▸ perform_ne _ x rest), h, List.head?_cons]

theorem does_of_eq (h : w'.tasks = w.tasks) : w.does w' = none := if_pos h

theorem does_of_rest (h : w.tasks = []) : w.does w' = none := by
  rw [does, h]
  split <;> rfl

/-- A step in which the scheduler does a task. -/
theorem Step.of_does (step : w.Step w') {x : Task} (h : w.does w' = some x) :
    ∃ rest, w.tasks = x :: rest ∧ w' = w.after x rest := by
  cases step with
  | perform htasks =>
      obtain rfl := Option.some.inj ((does_after htasks).symm.trans h)
      exact ⟨_, htasks, rfl⟩
  | receive hrest | query hrest =>
      rw [does_of_rest hrest] at h
      contradiction
  | arrive | work =>
      have hnone := h.symm.trans (does_of_eq rfl)
      contradiction

/-! ## What is asked for -/

theorem countP_newSessions {count first : Nat} (h : count ≤ first) (c : Nat) (slots : List Nat)
    (b i : Nat) :
    (newSessions c first slots).countP (fun x => count ≤ x.number && x.place == (b, i)) =
      slots.countP fun j => (c, j) == (b, i) := by
  induction slots generalizing first with
  | nil => rfl
  | cons j slots ih =>
      change (⟨first, c, j, .idle⟩ :: newSessions c (first + 1) slots : List Session).countP _ = _
      rw [List.countP_cons, List.countP_cons, ih (Nat.le_succ_of_le h)]
      simp [h, Session.place]

section Requests

variable (hnumbered : w.scheduler.Numbered)
include hnumbered

/-- What is asked for are the sessions that join. -/
theorem requested_of_sessions {c : Nat} {slots : List Nat}
    (hsessions : w'.scheduler.sessions =
      w.scheduler.sessions ++ newSessions c w.scheduler.sessionCount slots) (b i : Nat) :
    requested b i w w' = slots.countP fun j => (c, j) == (b, i) := by
  have hold : w.scheduler.sessions.countP (fun x =>
      w.scheduler.sessionCount ≤ x.number && x.place == (b, i)) = 0 :=
    requested_eq_zero hnumbered rfl b i
  rw [requested, hsessions, List.countP_append, hold, countP_newSessions (Nat.le_refl _),
    Nat.zero_add]

theorem requested_of_same (hsessions : w'.scheduler.sessions = w.scheduler.sessions) (b i : Nat) :
    requested b i w w' = 0 :=
  @requested_of_sessions w w' hnumbered 0 [] (hsessions.trans (List.append_nil _).symm) b i

/-- One session is asked for if a slot is asked a tunnel for. -/
theorem requested_of_ask {c j : Nat}
    (hsessions : w'.scheduler.sessions = (w.scheduler.ask c j).sessions) (b i : Nat) :
    requested b i w w' = if b = c ∧ i = j then 1 else 0 := by
  have hjoins : w'.scheduler.sessions =
      w.scheduler.sessions ++ newSessions c w.scheduler.sessionCount [j] := hsessions
  rw [requested_of_sessions hnumbered hjoins, List.countP_cons, List.countP_nil, Nat.zero_add]
  refine if_congr ?_ rfl rfl
  rw [beq_iff_eq, Prod.mk.injEq]
  exact and_congr eq_comm eq_comm

/-- An inspection asks to replace a tunnel exactly if it finds it worn. -/
theorem requested_weigh (c j t : Nat) (rest : List Task) (b i : Nat) :
    requested b i w (w.after (.weigh c j t) rest) =
      if w.scheduler.findsWorn c j t = true ∧ b = c ∧ i = j then 1 else 0 := by
  rw [after, perform_weigh]
  cases w.scheduler.findsWorn c j t with
  | false => exact requested_of_same hnumbered rfl b i
  | true =>
      simp only [if_true, true_and]
      exact requested_of_ask hnumbered rfl b i

theorem requested_mark (c j : Nat) (rest : List Task) (b i : Nat) :
    requested b i w (w.after (.mark c j) rest) =
      if w.scheduler.isFree c j = true ∧ b = c ∧ i = j then 1 else 0 := by
  rw [after, perform_mark]
  cases w.scheduler.isFree c j with
  | false => exact requested_of_same hnumbered rfl b i
  | true =>
      simp only [if_true, true_and]
      exact requested_of_ask hnumbered rfl b i

theorem requested_of_not_asking {x : Task} (h : x.mayAsk = false) (rest : List Task) (b i : Nat) :
    requested b i w (w.after x rest) = 0 :=
  requested_of_same hnumbered (sessions_perform_of_not_asking w.scheduler h).1 b i

/-- A new instance asks for nothing that another one has. -/
theorem requested_arrive (a : String) (rest : List Task) {b i : Nat} {x : Slot}
    (hx : w.scheduler.slot? b i = some x) : requested b i w (w.after (.arrive a) rest) = 0 := by
  have hne : w.scheduler.fleet.backends.size ≠ b := by
    rintro rfl
    rw [slot?, Fleet.slot?, Fleet.backend?, Array.getElem?_eq_none (Nat.le_refl _)] at hx
    contradiction
  obtain ⟨-, heq⟩ | ⟨-, -, heq⟩ | ⟨-, -, heq⟩ := w.scheduler.perform_arrive_cases a
  · rw [after, heq]
    exact requested_of_same hnumbered rfl b i
  · rw [after, heq]
    exact requested_of_same hnumbered rfl b i
  · rw [after, heq]
    refine (requested_of_sessions hnumbered rfl b i).trans (List.countP_eq_zero.2 fun j _ => ?_)
    simp [hne]

end Requests

/-! ## What a step makes of a slot -/

/-- What a step makes of a slot. -/
inductive Shift (b i : Nat) (w w' : World) (x : Slot) : Slot → Prop where
  /-- It leaves it alone. -/
  | keeps (hnone : requested b i w w' = 0) : Shift b i w w' x x
  /-- An inspection finds a tunnel worn and asks to replace it. -/
  | renews {t : Nat} (hdoes : w.does w' = some (.weigh b i t))
      (hworn : w.scheduler.findsWorn b i t = true) (hflag : x.replacing = false)
      (hone : requested b i w w' = 1) : Shift b i w w' x { x with replacing := true }
  /-- The scheduler asks for a tunnel in place of a broken one. -/
  | restores (hdoes : w.does w' = some (.mark b i)) (hflag : x.replacing = false)
      (hone : requested b i w w' = 1) : Shift b i w w' x { x with replacing := true }
  /-- It puts a tunnel into the slot. -/
  | installs {h : Handover} (hdoes : w.does w' = some (.handover h)) (hplace : h.place = (b, i))
      (hcurrent : w.scheduler.isCurrent b = true) (hnone : requested b i w w' = 0) :
      Shift b i w w' x ⟨some h.tunnel, false⟩
  /-- It empties the slot of an instance that was given up. -/
  | empties (hdoes : w.does w' = some (.empty b i)) (hdead : w.scheduler.gaveUp b)
      (hnone : requested b i w w' = 0) : Shift b i w w' x { x with tunnel := none }
  /-- A forward is told that the tunnel in the slot broke, and takes it out. -/
  | breaks {reach : ListenAddress → Bool} {r : Nat} {v : Opening.Visit}
      (hsees : w.SeesBreak reach r b v) (hslot : v.slot = i) (htunnel : x.tunnel = some v.tunnel)
      (hstep : w.scheduler.stepForward? reach r = some w'.scheduler)
      (hnone : requested b i w w' = 0) : Shift b i w w' x { x with tunnel := none }

section Tasks

variable {b i : Nat} {x : Slot} {rest : List Task} (hx : w.scheduler.slot? b i = some x)
  (hnumbered : w.scheduler.Numbered)
include hx hnumbered

theorem shift_weigh {c j t : Nat} (htasks : w.tasks = .weigh c j t :: rest) :
    ∃ x', (w.after (.weigh c j t) rest).scheduler.slot? b i = some x' ∧
      Shift b i w (w.after (.weigh c j t) rest) x x' := by
  have hrequested := requested_weigh hnumbered c j t rest b i
  by_cases hasks : w.scheduler.findsWorn c j t = true ∧ b = c ∧ i = j
  · obtain ⟨hworn, rfl, rfl⟩ := id hasks
    have hfree := (Bool.and_eq_true_iff.1 hworn).2
    rw [isFree_of_slot? hx, Bool.not_eq_true'] at hfree
    refine ⟨_, ?_, .renews (does_after htasks) hworn hfree (hrequested.trans (if_pos hasks))⟩
    rw [after, perform_weigh, hworn]
    refine ((w.scheduler.count _).slot?_ask b i b i).trans ?_
    rw [if_pos ⟨rfl, rfl⟩]
    exact congrArg _ hx
  · refine ⟨x, ?_, .keeps (hrequested.trans (if_neg hasks))⟩
    rw [after, perform_weigh]
    split
    · next hworn =>
      refine ((w.scheduler.count _).slot?_ask c j b i).trans ?_
      rw [if_neg fun heq => hasks ⟨hworn, heq⟩]
      exact hx
    · exact hx

theorem shift_mark {c j : Nat} (htasks : w.tasks = .mark c j :: rest) :
    ∃ x', (w.after (.mark c j) rest).scheduler.slot? b i = some x' ∧
      Shift b i w (w.after (.mark c j) rest) x x' := by
  have hrequested := requested_mark hnumbered c j rest b i
  by_cases hasks : w.scheduler.isFree c j = true ∧ b = c ∧ i = j
  · obtain ⟨hfree, rfl, rfl⟩ := id hasks
    have hflag := hfree
    rw [isFree_of_slot? hx, Bool.not_eq_true'] at hflag
    refine ⟨_, ?_, .restores (does_after htasks) hflag (hrequested.trans (if_pos hasks))⟩
    rw [after, perform_mark, hfree]
    refine (w.scheduler.slot?_ask b i b i).trans ?_
    rw [if_pos ⟨rfl, rfl⟩, hx, Option.map_some]
  · refine ⟨x, ?_, .keeps (hrequested.trans (if_neg hasks))⟩
    rw [after, perform_mark]
    split
    · next hfree =>
      refine (w.scheduler.slot?_ask c j b i).trans ?_
      rw [if_neg fun heq => hasks ⟨hfree, heq⟩, hx]
    · exact hx

theorem shift_empty {c j : Nat} (htasks : w.tasks = .empty c j :: rest)
    (hdead : w.scheduler.gaveUp c) :
    ∃ x', (w.after (.empty c j) rest).scheduler.slot? b i = some x' ∧
      Shift b i w (w.after (.empty c j) rest) x x' := by
  have hnone := requested_of_not_asking hnumbered (x := .empty c j) rfl rest b i
  have hslot := w.scheduler.slot?_empty c j b i
  rw [hx] at hslot
  split at hslot
  · next heq =>
    obtain ⟨rfl, rfl⟩ := heq
    exact ⟨_, hslot, .empties (does_after htasks) hdead hnone⟩
  · exact ⟨x, hslot, .keeps hnone⟩

theorem shift_handover {h : Handover} (htasks : w.tasks = .handover h :: rest) :
    ∃ x', (w.after (.handover h) rest).scheduler.slot? b i = some x' ∧
      Shift b i w (w.after (.handover h) rest) x x' := by
  have hnone := requested_of_not_asking hnumbered (x := .handover h) rfl rest b i
  have hslot := w.scheduler.slot?_handover h b i
  rw [hx] at hslot
  split at hslot
  · next heq =>
    obtain ⟨rfl, rfl⟩ := Prod.mk.inj heq.2
    exact ⟨_, hslot, .installs (does_after htasks) rfl heq.1 hnone⟩
  · exact ⟨x, hslot, .keeps hnone⟩

theorem shift_arrive (a : String) :
    ∃ x', (w.after (.arrive a) rest).scheduler.slot? b i = some x' ∧
      Shift b i w (w.after (.arrive a) rest) x x' := by
  obtain hsame | ⟨hnone, -⟩ := w.scheduler.slot?_arrive a b i
  · exact ⟨x, hsame.trans hx, .keeps (requested_arrive hnumbered a rest hx)⟩
  · rw [hx] at hnone
    contradiction

/-- A task makes one thing of a slot. -/
theorem shift_after {task : Task} (htasks : w.tasks = task :: rest) (hsound : w.Sound) :
    ∃ x', (w.after task rest).scheduler.slot? b i = some x' ∧
      Shift b i w (w.after task rest) x x' := by
  cases task with
  | weigh c j t => exact shift_weigh hx hnumbered htasks
  | mark c j => exact shift_mark hx hnumbered htasks
  | empty c j =>
      exact shift_empty hx hnumbered htasks (hsound.emptying c j (htasks ▸ List.mem_cons_self))
  | handover h => exact shift_handover hx hnumbered htasks
  | arrive a => exact shift_arrive hx hnumbered a
  | _ =>
      exact ⟨x, (slot?_perform w.scheduler rfl b i).trans hx,
        .keeps (requested_of_not_asking hnumbered rfl rest b i)⟩

end Tasks

/-- **What a step makes of a slot**, whoever acts. -/
theorem Step.shift (step : w.Step w') (hsound : w.Sound) (hnumbered : w.scheduler.Numbered)
    {b i : Nat} {x : Slot} (hx : w.scheduler.slot? b i = some x) :
    ∃ x', w'.scheduler.slot? b i = some x' ∧ Shift b i w w' x x' := by
  cases step with
  | perform htasks => exact shift_after hx hnumbered htasks hsound
  | receive _ hreceives =>
      exact ⟨x, by cases hreceives <;> exact hx,
        .keeps (requested_of_same hnumbered hreceives.sessions_eq.1 b i)⟩
  | query => exact ⟨x, hx, .keeps (requested_of_same hnumbered rfl b i)⟩
  | arrive _ haccept =>
      obtain rfl := accept?_eq haccept
      exact ⟨x, hx, .keeps (requested_of_same hnumbered rfl b i)⟩
  | work h =>
      have hnone := requested_eq_zero ((Step.work h).numbered hnumbered) h.numbers.2 b i
      obtain hsame | ⟨reach, r, c, v, hstep, hsees, htunnel, hslots⟩ := slot?_work h
      · exact ⟨x, (hsame b i).trans hx, .keeps hnone⟩
      · have hslot := hslots b i
        rw [hx] at hslot
        split at hslot
        · next heq =>
          obtain ⟨rfl, rfl⟩ := heq
          have hself : x.tunnel = some v.tunnel := (tunnelAt_of_slot? hx).symm.trans htunnel
          exact ⟨_, hslot, .breaks hsees rfl hself hstep hnone⟩
        · exact ⟨x, hslot, .keeps hnone⟩

/-- A slot that there was not before is empty, and not being replaced. -/
theorem Step.born (step : w.Step w') {b i : Nat} (hnone : w.scheduler.slot? b i = none) :
    w'.scheduler.slot? b i = none ∨ w'.scheduler.slot? b i = some {} := by
  cases step with
  | @perform task => exact slot?_perform_of_none w.scheduler task hnone
  | receive _ hreceives => exact .inl (by cases hreceives <;> exact hnone)
  | query => exact .inl hnone
  | arrive _ haccept =>
      obtain rfl := accept?_eq haccept
      exact .inl hnone
  | work h =>
      left
      obtain hsame | ⟨reach, r, c, v, -, -, -, hslots⟩ := slot?_work h
      · exact (hsame b i).trans hnone
      · refine (hslots b i).trans ?_
        rw [hnone]
        split <;> rfl

/-- A slot that holds a tunnel was there before. -/
theorem Step.shift_of_tunnel (step : w.Step w') (hsound : w.Sound)
    (hnumbered : w.scheduler.Numbered) {b i t : Nat} {flag : Bool}
    (h : w'.scheduler.slot? b i = some ⟨some t, flag⟩) :
    ∃ x, w.scheduler.slot? b i = some x ∧ Shift b i w w' x ⟨some t, flag⟩ := by
  cases hx : w.scheduler.slot? b i with
  | none =>
      obtain hnone | hnew := step.born hx
      · have hno := hnone.symm.trans h
        contradiction
      · have hno := congrArg Slot.tunnel (Option.some.inj (hnew.symm.trans h))
        contradiction
  | some x =>
      obtain ⟨x', hx', hshift⟩ := step.shift hsound hnumbered hx
      obtain rfl := Option.some.inj (hx'.symm.trans h)
      exact ⟨x, rfl, hshift⟩

/-- A tunnel in a slot was there before, or has just been put there. -/
theorem Step.tunnelAt_before (step : w.Step w') (hsound : w.Sound)
    (hnumbered : w.scheduler.Numbered) {b i t : Nat} (ht : w'.scheduler.tunnelAt b i = some t) :
    w.scheduler.tunnelAt b i = some t ∨
      ∃ h : Handover, w.does w' = some (.handover h) ∧ h.place = (b, i) ∧ h.tunnel = t := by
  obtain ⟨flag, hx'⟩ := exists_slot? ht
  obtain ⟨⟨old, set⟩, hx, hshift⟩ := step.shift_of_tunnel hsound hnumbered hx'
  have hold := tunnelAt_of_slot? hx
  cases hshift with
  | keeps | renews | restores => exact .inl hold
  | installs hdoes hplace => exact .inr ⟨_, hdoes, hplace, rfl⟩

end World

end StreamBalancer
