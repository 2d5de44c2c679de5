import Mathlib.Data.List.Count
import StreamBalancer.Balancer
import StreamBalancer.Proofs.Interleaving.Tenure
import StreamBalancer.Proofs.Listeners

/-!
# StreamBalancer.Proofs.Site

Listeners and scheduler at work together: how permits go out and come back.

1. The listeners share the permits and the queue with the scheduler (`Site.entrance`).  Any of
   them may act at any time, and be told to stop at any time.
2. A request is live as long as it holds a permit: while it is sent to the queue, or while the
   scheduler or a forward has it (`Site.live`).
3. Each step lets one connection that waited have a permit, or gives back one permit at most,
   of one live request (`Site.Step.passes`).
4. So permits are conserved, and each request gets one and gives it back once
   (`Site.History.permits_conserved`).
-/

namespace StreamBalancer

open Scheduler

/-- The listeners and the scheduler of a balancer. -/
structure Site where
  /-- The scheduler and its helpers. -/
  tenure : Tenure
  /-- The accept loops. -/
  listeners : Listeners
  /-- How many clients have connected; each connection is numbered by those before it. -/
  connections : Nat := 0

namespace Site

/-- Before anything has happened. -/
def initial (settings : Settings) (max : Nat) (addresses : List ListenAddress) : Site where
  tenure := { world := .initial settings max }
  listeners := .ofAddresses addresses

/-- The scheduler. -/
def scheduler (x : Site) : Scheduler := x.tenure.world.scheduler

/-- The free permits. -/
def permits (x : Site) : Nat := x.scheduler.permits

/-- The requests that hold a permit. -/
def live (x : Site) : List Nat := x.listeners.sending ++ x.scheduler.held x.tenure.world.tasks

/-- The permits, the queue and the clock, as the listeners see them. -/
def entrance (x : Site) : Entrance where
  permits := x.permits
  capacity := Balancer.queueCapacity
  queue := x.scheduler.jobs
  isRead := x.tenure.isRead
  now := x.scheduler.now

/-- Take over what listeners have done to permits and queue. -/
def takeOver (x : Site) (listeners : Listeners) (g : Entrance) : Site :=
  { x with
    listeners
    tenure := { x.tenure with world := { x.tenure.world with
      scheduler := { x.scheduler with permits := g.permits, jobs := g.queue }
      arrived := g.queue.drop x.scheduler.jobs.length ++ x.tenure.world.arrived } } }

/-- One step. -/
inductive Step (x : Site) : Site → Prop where
  /-- The scheduler or a helper acts. -/
  | inner {c : Tenure} (h : x.tenure.Step c) : Step x { x with tenure := c }
  /-- A listener acts, and goes behind the others. -/
  | listen {front back : List Listeners.Entry} {e : Listeners.Entry} {l : Listener} {g : Entrance}
      (h : x.listeners.entries = front ++ e :: back) (hacts : e.listener.Acts x.entrance l g) :
      Step x (x.takeOver ⟨front ++ (back ++ [{ e with listener := l }])⟩ g)
  /-- A client connects to the listener with a number. -/
  | connect (number : Nat) : Step x { x with
      listeners := (x.listeners.connect number x.connections).2
      connections := x.connections + 1 }
  /-- A listener is told to stop. -/
  | warn {front back : List Listeners.Entry} {e : Listeners.Entry}
      (h : x.listeners.entries = front ++ e :: back) :
      Step x { x with listeners := ⟨front ++ { e with listener := e.listener.signal.2 } :: back⟩ }

/-- A history, the present first. -/
inductive History (settings : Settings) (max : Nat) (addresses : List ListenAddress) :
    List Site → Prop where
  | start : History settings max addresses [initial settings max addresses]
  | step {x x' : Site} {past : List Site} (history : History settings max addresses (x :: past))
      (h : x.Step x') : History settings max addresses (x' :: x :: past)

/-- What the listeners do is a step. -/
theorem step_listeners {x : Site} {ls : Listeners} {g : Entrance}
    (h : x.listeners.step? x.entrance = some (ls, g)) : x.Step (x.takeOver ls g) := by
  obtain ⟨front, back, e, l, hsplit, hstep, hafter⟩ := Listeners.step?_cases h
  have heq : ls = ⟨front ++ (back ++ [{ e with listener := l }])⟩ := congrArg Listeners.mk hafter
  rw [heq]
  exact .listen hsplit (.heeds hstep)

/-- So is what a forward does on its own. -/
theorem step_forward {x : Site} (reach : ListenAddress → Bool) (request : Nat)
    (h : (x.tenure.world.scheduler.stepForward? reach request).isSome = true) :
    x.Step { x with
      tenure := x.tenure.become ((x.tenure.world.scheduler.stepForward? reach request).get h) } :=
  .inner (.work (.forward reach (Option.some_get h).symm))

/-- A history that goes on with the listeners, so many steps at most. -/
def goOn : Nat → Site → List Site → Site × List Site
  | 0, x, past => (x, past)
  | n + 1, x, past =>
    match x.listeners.step? x.entrance with
    | some (ls, g) => goOn n (x.takeOver ls g) (x :: past)
    | none => (x, past)

/-- A history that goes on with the tasks at hand, so many of them at most. -/
def settle : Nat → Site → List Site → Site × List Site
  | 0, x, past => (x, past)
  | n + 1, x, past =>
    if x.tenure.world.tasks = [] then (x, past)
    else settle n { x with tenure := { x.tenure with world := x.tenure.world.next } } (x :: past)

/-- The requests for which permits were taken in a history, the earliest first. -/
def granted : List Site → List Nat
  | x' :: x :: past =>
    granted (x :: past) ++ if x'.permits < x.permits then x'.live.diff x.live else []
  | _ => []

/-- The requests of which permits came back in a history, the earliest first. -/
def returned : List Site → List Nat
  | x' :: x :: past =>
    returned (x :: past) ++ if x.permits < x'.permits then x.live.diff x'.live else []
  | _ => []

/-! ## What a step keeps -/

/-- In how many places a connection is or has been. -/
def places (x : Site) (c : Nat) : Nat :=
  x.listeners.waiting.count c + x.listeners.sending.count c + x.tenure.world.arrived.count c

/-- Tables agree, requests are apart, and a connection is either in front of a permit, on its
way to the queue, or has come to the queue. -/
structure Sound (x : Site) : Prop where
  world : x.tenure.world.Sound
  apart : x.tenure.world.Apart
  numbered : x.listeners.Numbered
  once : ∀ c, x.places c ≤ if c < x.connections then 1 else 0

theorem sound_initial (settings : Settings) (max : Nat) (addresses : List ListenAddress) :
    (initial settings max addresses).Sound where
  world := World.sound_initial settings max
  apart := World.apart_initial settings max
  numbered := Listeners.numbered_ofAddresses addresses
  once c := by
    simp [places, initial, World.initial, Listeners.waiting_ofAddresses,
      Listeners.sending_ofAddresses]

/-- What a step does to permits and to those who have or want one. -/
inductive Passes (x x' : Site) : Prop where
  /-- One permit comes back at most. -/
  | releases (hrelease : Release x.permits x'.permits x.live x'.live)
      (hwaiting : ∀ c, x'.listeners.waiting.count c ≤ x.listeners.waiting.count c +
        if x.connections ≤ c ∧ c < x'.connections then 1 else 0)
  /-- A connection that waited gets a permit. -/
  | admits (r : Nat) (hpermits : x.permits = x'.permits + 1) (hlive : x'.live.Perm (r :: x.live))
      (hwaiting : x.listeners.waiting.Perm (r :: x'.listeners.waiting))

variable {x x' : Site}

/-- Connections are never forgotten. -/
theorem Step.connected (step : x.Step x') (c : Nat) :
    (if c < x.connections then 1 else 0) ≤ if c < x'.connections then 1 else 0 := by
  have hle : x.connections ≤ x'.connections := by
    cases step with
    | connect => exact Nat.le_succ _
    | _ => exact Nat.le_refl _
  split <;> split <;> omega

/-! ### Listeners -/

variable {ls : Listeners} {g : Entrance}

/-- Listeners that queue nothing change the free permits only. -/
theorem takeOver_same (h : g.queue = x.scheduler.jobs) :
    x.takeOver ls g = { x with
      listeners := ls
      tenure := x.tenure.become { x.scheduler with permits := g.permits } } := by
  have hnone : x.scheduler.jobs.drop x.scheduler.jobs.length = [] := List.drop_length
  rw [takeOver, h, hnone]
  rfl

/-- A request that is queued has arrived. -/
theorem takeOver_sent {c : Nat} (h : g.queue = x.scheduler.jobs ++ [c]) :
    x.takeOver ls g = { x with
      listeners := ls
      tenure := { x.tenure with world := { x.tenure.world with
        scheduler := { x.scheduler with permits := g.permits, jobs := x.scheduler.jobs ++ [c] }
        arrived := c :: x.tenure.world.arrived } } } := by
  rw [takeOver, h, List.drop_left]
  rfl

/-- The site stays sound if no connection is in more places. -/
theorem Sound.takeOver_same (hsound : x.Sound) (h : g.queue = x.scheduler.jobs)
    (hnumbered : ls.Numbered)
    (hplaces : ∀ c, ls.waiting.count c + ls.sending.count c ≤
      x.listeners.waiting.count c + x.listeners.sending.count c) : (x.takeOver ls g).Sound := by
  rw [Site.takeOver_same h]
  refine ⟨hsound.world.of_roster_eq (s := { x.scheduler with permits := g.permits }) rfl rfl _,
    hsound.apart.of_copies_le rfl rfl fun _ => Nat.le_refl _, hnumbered, fun c => ?_⟩
  refine Nat.le_trans ?_ (hsound.once c)
  exact Nat.add_le_add_right (hplaces c) _

/-- A request that was being sent is in one other place only when it is queued. -/
theorem Sound.takeOver_sent (hsound : x.Sound) {c : Nat} (h : g.queue = x.scheduler.jobs ++ [c])
    (hnumbered : ls.Numbered) (hwaiting : ls.waiting.Perm x.listeners.waiting)
    (hsending : x.listeners.sending.Perm (c :: ls.sending)) : (x.takeOver ls g).Sound := by
  have hnew : c ∉ x.tenure.world.arrived := by
    have honce := hsound.once c
    rw [places, hsending.count_eq, List.count_cons_self] at honce
    rw [← List.count_eq_zero]
    split at honce <;> omega
  rw [Site.takeOver_sent h]
  refine ⟨hsound.world.of_roster_eq
    (s := { x.scheduler with permits := g.permits, jobs := x.scheduler.jobs ++ [c] }) rfl rfl _,
    hsound.apart.arrive hnew g.permits, hnumbered, fun q => ?_⟩
  refine Nat.le_trans (Nat.le_of_eq ?_) (hsound.once q)
  simp only [places, hwaiting.count_eq, hsending.count_eq, List.count_cons]
  omega

/-- **A listener that acts** keeps the site sound, and takes one permit or gives one back. -/
theorem Sound.takeOver (hsound : x.Sound) (hnumbered : ls.Numbered)
    (hpasses : x.listeners.Passes x.entrance ls g) :
    (x.takeOver ls g).Sound ∧ x.Passes (x.takeOver ls g) := by
  have hheld : g.queue = x.scheduler.jobs →
      (x.takeOver ls g).live = ls.sending ++ x.scheduler.held x.tenure.world.tasks := by
    intro hqueue
    rw [Site.takeOver_same hqueue]
    rfl
  cases hpasses with
  | waits hwaiting hsending hpermits hqueue =>
      refine ⟨hsound.takeOver_same hqueue hnumbered fun c => ?_, .releases (.same hpermits ?_) ?_⟩
      · rw [hsending.count_eq]
        exact Nat.add_le_add_right (hwaiting c) _
      · rw [hheld hqueue]
        exact hsending.append_right _
      · exact fun c => Nat.le_trans (hwaiting c) (Nat.le_add_right _ _)
  | acquires c hwaiting hsending hpermits hqueue =>
      refine ⟨hsound.takeOver_same hqueue hnumbered fun q => ?_, .admits c hpermits ?_ hwaiting⟩
      · rw [hwaiting.count_eq, hsending.count_eq, List.count_cons, List.count_cons]
        omega
      · rw [hheld hqueue]
        exact hsending.append_right _
  | sends c hwaiting hsending hpermits hqueue =>
      refine ⟨hsound.takeOver_sent hqueue hnumbered hwaiting hsending,
        .releases (.same_of_count hpermits fun q => ?_) ?_⟩
      · rw [Site.takeOver_sent hqueue]
        simp only [live, scheduler, List.count_append, count_held, hsending.count_eq,
          List.count_cons, List.count_nil]
        omega
      · exact fun q => Nat.le_trans (Nat.le_of_eq (hwaiting.count_eq q)) (Nat.le_add_right _ _)
  | drops c hwaiting hsending hpermits hqueue =>
      refine ⟨hsound.takeOver_same hqueue hnumbered fun q => ?_,
        .releases (.returns c hpermits ?_) ?_⟩
      · rw [hsending.count_eq, List.count_cons]
        have hfewer := hwaiting q
        omega
      · rw [hheld hqueue]
        exact hsending.append_right _
      · exact fun q => Nat.le_trans (hwaiting q) (Nat.le_add_right _ _)

/-! ### All steps -/

/-- **Every step keeps the site sound**, lets one connection that waited have a permit, or gives
one permit back at most. -/
theorem Step.passes (hsound : x.Sound) (step : x.Step x') : x'.Sound ∧ x.Passes x' := by
  cases step with
  | @inner c h =>
      have hkeeps := h.keeps hsound.world hsound.apart
      refine ⟨⟨hkeeps.sound, hkeeps.apart, hsound.numbered, fun q => ?_⟩,
        .releases (hkeeps.release.append _) fun q => Nat.le_add_right _ _⟩
      rw [places, hkeeps.arrived]
      exact hsound.once q
  | listen h hacts =>
      exact hsound.takeOver (hsound.numbered.moved h _) (Listeners.passes_of_listener h hacts.passes)
  | connect number =>
      obtain ⟨hnumbered, hsending, hwaiting⟩ :=
        Listeners.connect_keeps hsound.numbered number x.connections
      refine ⟨⟨hsound.world, hsound.apart, hnumbered, fun c => ?_⟩, .releases (.same rfl ?_) fun c => ?_⟩
      · have honce := hsound.once c
        have hfewer := hwaiting c
        simp only [places, hsending] at honce ⊢
        split at honce <;> split at hfewer <;> split <;> omega
      · rw [live, live, hsending]
        exact .refl _
      · have hfewer := hwaiting c
        dsimp only
        split at hfewer <;> split <;> omega
  | warn h =>
      obtain ⟨hnumbers, hsending, hwaiting⟩ := Listeners.signal_keeps h
      refine ⟨⟨hsound.world, hsound.apart, ?_, fun c => ?_⟩, .releases (.same rfl ?_) fun c => ?_⟩
      · rw [Listeners.Numbered, hnumbers]
        exact hsound.numbered
      · rw [places, hwaiting, hsending]
        exact hsound.once c
      · rw [live, live, hsending]
        exact .refl _
      · rw [hwaiting]
        exact Nat.le_add_right _ _

/-- No connection has two permits. -/
theorem Sound.live_nodup (hsound : x.Sound) : x.live.Nodup := by
  rw [List.nodup_iff_count_le_one]
  intro c
  have honce := hsound.once c
  have hheld := hsound.apart.count_held_le c
  have harrived := hsound.apart.once c
  have hmem : (if c ∈ x.tenure.world.arrived then 1 else 0) ≤ x.tenure.world.arrived.count c := by
    split
    · next hc => exact List.count_pos_iff.2 hc
    · exact Nat.zero_le _
  rw [places] at honce
  rw [live, List.count_append, scheduler]
  split at honce <;> omega

/-! ## Histories -/

/-- What one list has more than another one. -/
theorem diff_of_perm {l l' : List Nat} {r : Nat} (h : l'.Perm (r :: l)) : l'.diff l = [r] := by
  have hrest : (l ++ l'.diff l).Perm l' :=
    List.subperm_append_diff_self_of_count_le fun q _ => by
      rw [h.count_eq, List.count_cons]
      exact Nat.le_add_right _ _
  have hone : (l ++ l'.diff l).Perm (l ++ [r]) :=
    (hrest.trans h).trans (List.perm_append_singleton r l).symm
  exact List.perm_singleton.1 ((List.perm_append_left_iff l).1 hone)

/-- **What one reads off a step**: the permits that were taken and given back are those of the
requests that have come to live and of those that live no longer. -/
theorem Passes.read (h : x.Passes x') (past : List Site) : ∃ new back,
    granted (x' :: x :: past) = granted (x :: past) ++ new ∧
    returned (x' :: x :: past) = returned (x :: past) ++ back ∧
    (new ++ x.live).Perm (back ++ x'.live) ∧
    x'.permits + x'.live.length = x.permits + x.live.length ∧
    ∀ c, new.count c + x'.listeners.waiting.count c ≤ x.listeners.waiting.count c +
      if x.connections ≤ c ∧ c < x'.connections then 1 else 0 := by
  cases h with
  | releases hrelease hwaiting =>
      have htotal := hrelease.total
      have hfewer (c : Nat) := Nat.le_trans (Nat.le_of_eq (Nat.zero_add _)) (hwaiting c)
      cases hrelease with
      | same hpermits hlive =>
          exact ⟨[], [], by simp [granted, hpermits], by simp [returned, hpermits], hlive.symm,
            htotal, hfewer⟩
      | returns r hpermits hlive =>
          exact ⟨[], [r], by simp [granted, hpermits],
            by simp [returned, hpermits, diff_of_perm hlive], hlive, htotal, hfewer⟩
  | admits r hpermits hlive hwaiting =>
      refine ⟨[r], [], by simp [granted, hpermits, diff_of_perm hlive], by simp [returned, hpermits],
        hlive.symm, ?_, fun c => ?_⟩
      · rw [hlive.length_eq, List.length_cons, hpermits]
        omega
      · rw [hwaiting.count_eq, List.count_singleton, List.count_cons]
        omega

namespace History

variable {settings : Settings} {max : Nat} {addresses : List ListenAddress} {past : List Site}

/-- What the permits that were taken and given back say at every moment. -/
structure Settled (x : Site) (past : List Site) (max : Nat) : Prop where
  sound : x.Sound
  total : x.permits + x.live.length = max
  balance : (granted (x :: past)).Perm (x.live ++ returned (x :: past))
  unserved : ∀ c, (granted (x :: past)).count c + x.listeners.waiting.count c ≤
    if c < x.connections then 1 else 0

/-- A step keeps what is settled. -/
theorem Settled.step (h : Settled x past max) (step : x.Step x') : Settled x' (x :: past) max := by
  obtain ⟨hsound, hpasses⟩ := step.passes h.sound
  obtain ⟨new, back, hgranted, hreturned, hlive, htotal, hwaiting⟩ := hpasses.read past
  refine ⟨hsound, htotal.trans h.total, ?_, fun c => ?_⟩
  · rw [hgranted, hreturned, List.perm_iff_count]
    intro q
    have hbalance := h.balance.count_eq q
    have hchange := hlive.count_eq q
    simp only [List.count_append] at hbalance hchange ⊢
    omega
  · have hold := h.unserved c
    have hnew := hwaiting c
    have hconnected := step.connected c
    rw [hgranted, List.count_append]
    split at hnew
    · next hjoined =>
      rw [if_neg (Nat.not_lt.2 hjoined.1)] at hold
      rw [if_pos hjoined.2]
      omega
    · omega

theorem settled (history : History settings max addresses (x :: past)) : Settled x past max := by
  generalize hsites : x :: past = sites at history
  induction history generalizing x past with
  | start =>
      obtain ⟨rfl, rfl⟩ := List.cons.inj hsites
      refine ⟨sound_initial settings max addresses, ?_, ?_, fun c => ?_⟩
      · simp [permits, live, initial, scheduler, World.initial, Listeners.sending_ofAddresses, held]
      · simp [granted, returned, live, initial, scheduler, World.initial,
          Listeners.sending_ofAddresses, held]
      · simp [granted, initial, Listeners.waiting_ofAddresses]
  | step _ step ih =>
      obtain ⟨rfl, rfl⟩ := List.cons.inj hsites
      exact (ih rfl).step step

/-- **Permits are conserved.**  At every moment of every history:

* free permits and requests that hold one are together as many as there were permits at first,
  so no more requests are live at once;
* no request is live twice, and none ever gets a second permit;
* a request that got a permit is live, and its permit did not come back, or it is live no
  longer, and its permit came back once;
* when no request is live, all permits are free. -/
theorem permits_conserved (history : History settings max addresses (x :: past)) :
    x.permits + x.live.length = max ∧
    x.live.length ≤ max ∧
    x.live.Nodup ∧
    (granted (x :: past)).Nodup ∧
    (granted (x :: past)).Perm (x.live ++ returned (x :: past)) ∧
    (∀ r ∈ granted (x :: past),
      (returned (x :: past)).count r = if r ∈ x.live then 0 else 1) ∧
    (x.live = [] → x.permits = max) := by
  obtain ⟨hsound, htotal, hbalance, hunserved⟩ := history.settled
  have hgranted : (granted (x :: past)).Nodup := by
    rw [List.nodup_iff_count_le_one]
    intro c
    have hone := hunserved c
    split at hone <;> omega
  refine ⟨htotal, by omega, hsound.live_nodup, hgranted, hbalance, fun r hr => ?_, fun hnone => ?_⟩
  · have hone := List.count_eq_one_of_mem hgranted hr
    rw [hbalance.count_eq, List.count_append] at hone
    split
    · next hlive =>
      have hpos := List.count_pos_iff.2 hlive
      omega
    · next hlive =>
      rw [List.count_eq_zero.2 hlive] at hone
      omega
  · rw [hnone, List.length_nil] at htotal
    exact htotal

/-- Listeners may go on, so many steps at most. -/
theorem goOn (history : History settings max addresses (x :: past)) (n : Nat) :
    History settings max addresses ((x.goOn n past).1 :: (x.goOn n past).2) := by
  induction n generalizing x past with
  | zero => exact history
  | succ n ih =>
      rw [Site.goOn]
      split
      · next ls g hstep => exact ih (history.step (step_listeners hstep))
      · exact history

/-- The tasks at hand may be done one after the other. -/
theorem settle (history : History settings max addresses (x :: past)) (n : Nat) :
    History settings max addresses ((x.settle n past).1 :: (x.settle n past).2) := by
  induction n generalizing x past with
  | zero => exact history
  | succ n ih =>
      rw [Site.settle]
      split
      · exact history
      · next htasks => exact ih (history.step (.inner (.perform htasks)))

/-- Of three requests the second is refused at the ceiling, the first comes back because its
instance cannot be reached, and the third is on its way to the queue when the scheduler ends. -/
theorem permits_conserved_of_shutdown :
    ∃ x past x' past',
      History ⟨.leastLoaded, false, 8, 1, 0, ⟨0, 100⟩, default⟩ 2 [.tcp "a:1", .unix "/b"]
        (x :: past) ∧
      History ⟨.leastLoaded, false, 8, 1, 0, ⟨0, 100⟩, default⟩ 2 [.tcp "a:1", .unix "/b"]
        (x' :: past') ∧
      x.live = [2, 0] ∧ x.permits = 0 ∧ returned (x :: past) = [1] ∧
      x'.live = [] ∧ x'.permits = 2 ∧ returned (x' :: past') = [1, 0, 2] := by
  have begun := @History.start ⟨.leastLoaded, false, 8, 1, 0, ⟨0, 100⟩, default⟩ 2
    [.tcp "a:1", .unix "/b"]
  -- an instance is created
  have posted := begun.step (.inner (.work (.post (.ofHealthy ["a"]))))
  have first := (posted.step (.inner (.receive rfl rfl (.snapshot rfl)
    (.snapshot _ (by decide) .rfl .rfl (.inl rfl))))).settle 4
  -- three clients come, and two of them get a permit
  have came := ((first.step (.connect 0)).step (.connect 1)).step (.connect 0)
  have queued := came.goOn 7
  have carried := (queued.step (.inner (.receive (by decide +kernel) (by decide +kernel)
    (@Receives.request _ 0 [1] (by decide +kernel)) (.request 0)))).settle 9
  have refused := (carried.step (.inner (.receive (by decide +kernel) (by decide +kernel)
    (@Receives.request _ 1 [] (by decide +kernel)) (.request 1)))).settle 9
  -- the third gets the permit of the second, and the instance of the first cannot be reached
  have sending := refused.goOn 1
  let reach : ListenAddress → Bool := fun _ => false
  have failed := ((((((sending.step (step_forward reach 0 (by decide +kernel))).step
    (step_forward reach 0 (by decide +kernel))).step
    (step_forward reach 0 (by decide +kernel))).step
    (step_forward reach 0 (by decide +kernel))).step
    (step_forward reach 0 (by decide +kernel))).step
    (step_forward reach 0 (by decide +kernel)))
  have busy := (failed.step (.inner (.receive (by decide +kernel) (by decide +kernel)
    (@Receives.finished _ ⟨0, .dialFailed 0⟩ [] (by decide +kernel)) (.finished _)))).settle 9
  -- the end
  have emptied := ((busy.step (.inner .signal)).step (.inner (.leave (by decide +kernel)
    (by decide +kernel) (by decide +kernel) (.refl _)))).settle 9
  have cleared := emptied.step (.inner (@Tenure.Step.clear _ 0 [] (by decide +kernel)
    (by decide +kernel) (by decide +kernel)))
  have closed := (cleared.step (.inner (.close (by decide +kernel) (by decide +kernel)
    (by decide +kernel) (by decide +kernel)))).step (.inner (.shut (by decide +kernel)))
  have ended := closed.goOn 1
  refine ⟨_, _, _, _, busy, ended, by decide +kernel, ?_, by decide +kernel, by decide +kernel,
    (permits_conserved ended).2.2.2.2.2.2 (by decide +kernel), by decide +kernel⟩
  have htotal := (permits_conserved busy).1
  exact Nat.add_right_cancel (htotal.trans (by decide +kernel))

end History

end Site

end StreamBalancer
