import Mathlib.Data.List.Count
import StreamBalancer.Proofs.Interleaving.Teardown
import StreamBalancer.Proofs.Site

/-!
# StreamBalancer.Proofs.Startup.Tidy

A site that grows by one listener after the other, and whose parts end.

1. A listener runs until it ends, and stays at its endpoint (`Listener.Acts.keeps`).  No step
   makes a listener that runs out of one that has ended (`Site.Step.alive_subperm`).
2. What is so of the scheduler and its tunnels at every moment is so at a site, too, also when it
   gets another listener or is asked to stop (`Site.Tidy`).
3. A scheduler that has ended stays so (`Site.Step.hasEnded`), and has nothing left
   (`Site.Tidy.emptied`).
-/

namespace StreamBalancer

/-! ## Listeners that run -/

namespace Listener

variable {l l' : Listener} {g g' : Entrance}

theorem Moves.keeps (h : l.Moves g l' g') : l'.address = l.address ∧ l.isRunning = true := by
  cases h with
  | accepts hstage | wakes hstage | acquires hstage | sends hstage | stops hstage | refuses hstage
  | drops hstage => exact ⟨rfl, by simp [isRunning, hstage]⟩

/-- Only a loop that has not ended acts, and it stays at its endpoint. -/
theorem Acts.keeps (h : l.Acts g l' g') : l'.address = l.address ∧ l.isRunning = true := by
  cases h with
  | heeds h => exact (moves_of_step? h).keeps
  | overlooks _ h =>
      obtain ⟨haddress, hrunning⟩ := (moves_of_step? h).keeps
      exact ⟨haddress, hrunning⟩
  | fails draw broken h =>
      obtain ⟨hstage, rfl⟩ := fail?_eq_some h
      exact ⟨rfl, by simp [isRunning, hstage]⟩

theorem keeps_connect (l : Listener) (connection : Nat) :
    (l.connect connection).2.address = l.address ∧
      (l.connect connection).2.isRunning = l.isRunning := by
  unfold connect
  split <;> exact ⟨rfl, rfl⟩

end Listener

namespace Listeners

/-- The listeners that run, as numbers and endpoints. -/
def alive (ls : Listeners) : List (Nat × ListenAddress) :=
  (ls.entries.filter fun e => e.listener.isRunning).map fun e => (e.number, e.listener.address)

/-- The numbers of all listeners. -/
def numbers (ls : Listeners) : List Nat := ls.entries.map Entry.number

theorem running_eq (ls : Listeners) : ls.running = ls.alive.map Prod.snd := by
  rw [running, alive, List.map_map]
  rfl

theorem alive_perm {entries others : List Entry} (h : entries.Perm others) :
    (alive ⟨entries⟩).Perm (alive ⟨others⟩) :=
  (h.filter _).map _

theorem alive_append (entries others : List Entry) :
    alive ⟨entries ++ others⟩ = alive ⟨entries⟩ ++ alive ⟨others⟩ := by
  simp only [alive, List.filter_append, List.map_append]

/-- Whoever changes neither numbers nor endpoints nor ends. -/
theorem alive_map (entries : List Entry) {change : Entry → Entry}
    (h : ∀ e, (change e).number = e.number ∧
      (change e).listener.address = e.listener.address ∧
      (change e).listener.isRunning = e.listener.isRunning) :
    alive ⟨entries.map change⟩ = alive ⟨entries⟩ := by
  induction entries with
  | nil => rfl
  | cons e rest ih =>
      obtain ⟨hnumber, haddress, hrunning⟩ := h e
      simp only [alive, List.map_cons, List.filter_cons, hrunning] at ih ⊢
      split
      · rw [List.map_cons, List.map_cons, ih, hnumber, haddress]
      · exact ih

/-- One listener acts and goes behind the others.  It may have ended. -/
theorem alive_subperm {front back : List Entry} {e : Entry} {l : Listener}
    (haddress : l.address = e.listener.address) (hrunning : e.listener.isRunning = true) :
    (alive ⟨front ++ (back ++ [{ e with listener := l }])⟩).Subperm
      (alive ⟨front ++ e :: back⟩) := by
  have hbefore : (alive ⟨front ++ e :: back⟩).Perm
      ((e.number, e.listener.address) :: alive ⟨front ++ back⟩) := by
    refine (alive_perm List.perm_middle).trans (.of_eq ?_)
    simp [alive, hrunning]
  have hafter := alive_perm (moved_perm front back { e with listener := l })
  refine hafter.subperm.trans (.trans ?_ hbefore.symm.subperm)
  by_cases hgoes : l.isRunning = true
  · refine List.Perm.subperm (.of_eq ?_)
    simp [alive, hgoes, haddress]
  · refine List.Sublist.subperm ?_
    simp [alive, hgoes]

end Listeners

/-! ## Sites -/

namespace Tenure

/-- The scheduler is gone, and all that was sent to it. -/
def HasEnded (c : Tenure) : Prop := c.world.scheduler.stopped = true ∧ c.isRead = false

/-- What is over stays over. -/
theorem Step.hasEnded {c c' : Tenure} (step : c.Step c') (h : c.Orderly) (hended : c.HasEnded) :
    c'.HasEnded := by
  refine ⟨(step.of_stopped h hended.1).1, ?_⟩
  cases step with
  | shut => rfl
  | _ => exact hended.2

end Tenure

namespace Site

/-- All at the site are asked to stop. -/
def signal (x : Site) : Site :=
  { x with tenure := x.tenure.become x.scheduler.signal, listeners := x.listeners.signal }

/-- Another listener, at an endpoint. -/
def extend (x : Site) (e : ListenAddress) : Site :=
  { x with listeners := ⟨x.listeners.entries ++ [⟨x.listeners.entries.length, { address := e }⟩]⟩ }

variable {x x' : Site}

theorem alive_signal (x : Site) : x.signal.listeners.alive = x.listeners.alive :=
  Listeners.alive_map x.listeners.entries fun _ => ⟨rfl, rfl, rfl⟩

theorem alive_extend (x : Site) (e : ListenAddress) : (x.extend e).listeners.alive =
    x.listeners.alive ++ [(x.listeners.entries.length, e)] :=
  Listeners.alive_append _ _

/-- **No listener comes to run.** -/
theorem Step.alive_subperm (step : x.Step x') :
    x'.listeners.alive.Subperm x.listeners.alive := by
  cases step with
  | inner => exact .refl _
  | @listen front back e l g h hacts =>
      have hsame : x.listeners = ⟨front ++ e :: back⟩ := congrArg Listeners.mk h
      obtain ⟨haddress, hrunning⟩ := hacts.keeps
      rw [hsame]
      exact Listeners.alive_subperm haddress hrunning
  | connect number =>
      refine List.Perm.subperm (.of_eq (Listeners.alive_map x.listeners.entries fun e => ?_))
      split
      · obtain ⟨haddress, hrunning⟩ := e.listener.keeps_connect x.connections
        exact ⟨rfl, haddress, hrunning⟩
      · exact ⟨rfl, rfl, rfl⟩
  | @warn front back e h =>
      have hsame : x.listeners = ⟨front ++ e :: back⟩ := congrArg Listeners.mk h
      have hrunning : e.listener.signal.2.isRunning = e.listener.isRunning := rfl
      refine List.Perm.subperm (.of_eq ?_)
      simp only [hsame, Listeners.alive, List.filter_append, List.filter_cons, hrunning]
      split <;> simp only [List.map_append, List.map_cons, Listener.signal]

theorem Step.running_subperm (step : x.Step x') :
    x'.listeners.running.Subperm x.listeners.running := by
  obtain ⟨alive, hperm, hsublist⟩ := step.alive_subperm
  rw [Listeners.running_eq, Listeners.running_eq]
  exact ⟨alive.map Prod.snd, hperm.map _, hsublist.map _⟩

/-- All listeners keep their numbers. -/
theorem Step.numbers (step : x.Step x') :
    x'.listeners.numbers.Perm x.listeners.numbers := by
  cases step with
  | inner => exact .refl _
  | @listen front back e l g h =>
      have hbefore : x.listeners.entries.Perm (e :: (front ++ back)) := h ▸ List.perm_middle
      exact ((Listeners.moved_perm front back { e with listener := l }).map _).trans
        (hbefore.map Listeners.Entry.number).symm
  | connect number =>
      refine .of_eq ?_
      simp only [Listeners.numbers, Listeners.connect, List.map_map]
      refine List.map_congr_left fun e _ => ?_
      simp only [Function.comp_apply]
      split <;> rfl
  | warn h => exact .of_eq (Listeners.signal_keeps h).1

/-! ## What is so at every moment -/

/-- What is true at every moment. -/
structure Tidy (x : Site) : Prop where
  sound : x.Sound
  orderly : x.tenure.Orderly
  /-- Each tunnel has one owner, if those that were lost count as had by somebody. -/
  owned : ∃ gone, (x.tenure.world.traffic.abandon gone).Owned
  /-- Listeners are numbered in the order in which they came. -/
  numbers : x.listeners.numbers.Perm (List.range x.listeners.entries.length)

theorem tidy_initial (settings : Scheduler.Settings) (max : Nat) :
    (initial settings max []).Tidy := by
  have history := @Tenure.History.start settings max
  obtain ⟨gone, howned, -⟩ := history.owned
  exact ⟨sound_initial settings max [], history.orderly, ⟨gone, howned⟩, .refl _⟩

namespace Tidy

/-- The scheduler and its helpers act. -/
theorem inner (h : x.Tidy) {c : Tenure} (step : x.tenure.Step c) :
    Tidy { x with tenure := c } := by
  obtain ⟨gone, howned⟩ := h.owned
  obtain ⟨lost, -, hdrift⟩ := step.drift h.orderly
  have hstill := howned.drifts (hdrift.abandon gone)
  rw [Traffic.abandon_abandon] at hstill
  exact ⟨((Step.inner step).passes h.sound).1, h.orderly.step step, ⟨gone + lost, hstill⟩, h.numbers⟩

/-- Listeners with the same numbers are numbered in that order, too. -/
theorem numbers_of_perm (h : x.Tidy) {ls : Listeners}
    (hsame : ls.numbers.Perm x.listeners.numbers) :
    ls.numbers.Perm (List.range ls.entries.length) := by
  have hlength := hsame.length_eq
  rw [Listeners.numbers, Listeners.numbers, List.length_map, List.length_map] at hlength
  rw [hlength]
  exact hsame.trans h.numbers

theorem step (h : x.Tidy) (step : x.Step x') : x'.Tidy := by
  have hsound := (step.passes h.sound).1
  have hnumbers := h.numbers_of_perm step.numbers
  cases step with
  | inner step => exact h.inner step
  | listen =>
      have horderly : Tenure.Orderly _ :=
        { sound := hsound.world
          apart := hsound.apart
          numbered := h.orderly.numbered
          clearing := fun hleaving => (h.orderly.clearing hleaving).of_same rfl rfl
          gone := h.orderly.gone }
      exact ⟨hsound, horderly, h.owned, hnumbers⟩
  | connect | warn => exact ⟨hsound, h.orderly, h.owned, hnumbers⟩

theorem signal (h : x.Tidy) : x.signal.Tidy := by
  have htenure := h.inner .signal
  have hwaiting : x.listeners.signal.waiting = x.listeners.waiting := List.flatMap_map ..
  have hsending : x.listeners.signal.sending = x.listeners.sending := List.filterMap_map ..
  have hnumbers : x.listeners.signal.numbers = x.listeners.numbers := List.map_map ..
  refine ⟨⟨htenure.sound.world, htenure.sound.apart, ?_, fun c => ?_⟩, htenure.orderly,
    htenure.owned, h.numbers_of_perm (.of_eq hnumbers)⟩
  · change x.listeners.signal.numbers.Nodup
    rw [hnumbers]
    exact h.sound.numbered
  · have honce := htenure.sound.once c
    rw [places] at honce ⊢
    rw [Site.signal, hwaiting, hsending]
    exact honce

theorem extend (h : x.Tidy) (e : ListenAddress) : (x.extend e).Tidy := by
  have hnumbers : (x.extend e).listeners.numbers =
      x.listeners.numbers ++ [x.listeners.entries.length] := List.map_append
  have hlength : (x.extend e).listeners.entries.length = x.listeners.entries.length + 1 :=
    List.length_append
  have hrange : (x.extend e).listeners.numbers.Perm
      (List.range (x.extend e).listeners.entries.length) := by
    rw [hnumbers, hlength, List.range_succ]
    exact h.numbers.append_right _
  refine ⟨⟨h.sound.world, h.sound.apart, ?_, fun c => ?_⟩, h.orderly, h.owned, hrange⟩
  · exact hrange.nodup_iff.2 List.nodup_range
  · have hwaiting : (x.extend e).listeners.waiting = x.listeners.waiting := by
      simp [Site.extend, Listeners.waiting, Listener.waiting]
    have hsending : (x.extend e).listeners.sending = x.listeners.sending := by
      simp [Site.extend, Listeners.sending, Listener.sending?]
    have honce := h.sound.once c
    rw [places] at honce ⊢
    rw [hwaiting, hsending]
    exact honce

/-- **A scheduler that has ended has nothing left.** -/
theorem emptied (h : x.Tidy) (hended : x.tenure.HasEnded) : x.scheduler.Emptied := by
  obtain ⟨gone, howned⟩ := h.owned
  exact h.orderly.emptied howned hended.1

end Tidy

/-- What is over stays over. -/
theorem Step.hasEnded (step : x.Step x') (h : x.Tidy) (hended : x.tenure.HasEnded) :
    x'.tenure.HasEnded := by
  cases step with
  | inner step => exact step.hasEnded h.orderly hended
  | listen | connect | warn => exact hended

end Site

end StreamBalancer
