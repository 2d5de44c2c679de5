import Mathlib.Logic.Function.Basic
import StreamBalancer.StopSignal

/-!
# StreamBalancer.Proofs.StopSignal

The signal among those who ask to stop and those who are to stop.

1. A call of `trigger` is two steps, the flag and then the broadcast, and anything may
   happen between them (`Watch.Step.raise`, `Watch.Step.broadcast`).
2. A task subscribes, looks at the flag, and only then waits.  When something else ends its
   wait it looks at the flag again, or waits again without looking (`Task.Step`).
3. Who has found the flag down is past no broadcast, whatever came after (`Watch.Sound`).

The scheduler's loop and the sessions are such tasks.  Their own models have one flag,
`signalled`, for the flag and the receiver together; that neither can be missed is shown here.

* `Reached.heard` — no signal is missed: once a call has returned, what a waiting task
  receives is the broadcast or the news that it has missed some, and who looks at the flag
  stops.
* `Reached.asked` — nobody stops for a signal that nobody has given.
-/

namespace StreamBalancer

namespace StopSignal

variable {s s' : StopSignal} {q r : Nat}

/-! ## The receivers -/

/-- How many broadcasts a receiver is past. -/
def position? (s : StopSignal) (r : Nat) : Option Nat := s.receivers.get? r

@[simp] theorem position?_subscribe (s : StopSignal) (r : Nat) :
    s.subscribe.2.position? r = if r = s.subscribed then some s.sent else s.position? r :=
  Registry.get?_put ..

@[simp] theorem position?_unsubscribe (s : StopSignal) (q r : Nat) :
    (s.unsubscribe q).2.position? r = if r = q then none else s.position? r :=
  Registry.get?_put ..

theorem position?_receive_of_ne (hne : r ≠ q) : (s.receive q).2.position? r = s.position? r := by
  unfold receive position?
  grind [Registry.get?_put]

/-- Receiving tells nobody and adds no receiver. -/
theorem receive_keeps (s : StopSignal) (q : Nat) :
    (s.receive q).2.raised = s.raised ∧ (s.receive q).2.sent = s.sent ∧
      (s.receive q).2.subscribed = s.subscribed := by
  unfold receive
  grind

/-- What a receiver gets that is past no broadcast. -/
theorem receive_of_first (h : s.position? r = some 0) :
    (s.receive r).1 =
      if s.sent = 0 then .empty else if s.sent = 1 then .signal else .lagged (s.sent - 1) := by
  have hget : s.receivers.get? r = some 0 := h
  unfold receive
  grind

/-! ## Tasks that heed the signal -/

/-- Why a task has ended. -/
inductive Ending where
  /-- It found the flag up. -/
  | flag
  /-- It received something. -/
  | heard (what : Reception)
  /-- It has nothing more to do. -/
  | other
deriving DecidableEq, Repr

/-- How far a task has come with the signal. -/
inductive Task where
  /-- It has not subscribed. -/
  | starting
  /-- It is about to look at the flag. -/
  | looking (receiver : Nat)
  /-- It waits for the signal, and for something else. -/
  | waiting (receiver : Nat)
  /-- Something else has ended its wait. -/
  | awake (receiver : Nat)
  /-- It is over. -/
  | ended (why : Ending)
deriving DecidableEq, Repr

namespace Task

/-- The receiver of a task. -/
def receiver? : Task → Option Nat
  | .looking r | .waiting r | .awake r => some r
  | .starting | .ended _ => none

/-- The receiver of a task that has looked at the flag and not gone back to look again. -/
def pastLook? : Task → Option Nat
  | .waiting r | .awake r => some r
  | .starting | .looking _ | .ended _ => none

/-- A step of one task.  The event loop of the scheduler looks at the flag before every wait;
a session waits a second time without looking, for the delay after a failed dial. -/
inductive Step (s : StopSignal) : Task → StopSignal → Task → Prop where
  | subscribe : Step s .starting s.subscribe.2 (.looking s.subscribe.1)
  | see (r : Nat) (hraised : s.raised = true) :
      Step s (.looking r) (s.unsubscribe r).2 (.ended .flag)
  | pass (r : Nat) (hraised : s.raised = false) : Step s (.looking r) s (.waiting r)
  | wake (r : Nat) : Step s (.waiting r) s (.awake r)
  | look (r : Nat) : Step s (.awake r) s (.looking r)
  | wait (r : Nat) : Step s (.awake r) s (.waiting r)
  | hear (r : Nat) (hsome : (s.receive r).1 ≠ .empty) :
      Step s (.waiting r) ((s.receive r).2.unsubscribe r).2 (.ended (.heard (s.receive r).1))
  | leave {t : Task} (r : Nat) (hreceiver : t.receiver? = some r) :
      Step s t (s.unsubscribe r).2 (.ended .other)

theorem receiver?_of_pastLook? {t : Task} (h : t.pastLook? = some r) : t.receiver? = some r := by
  cases t <;> first | exact h | cases h

variable {t t' : Task}

/-- A task changes neither the flag nor the number of broadcasts. -/
theorem Step.keeps (h : Step s t s' t') :
    s'.raised = s.raised ∧ s'.sent = s.sent ∧ s.subscribed ≤ s'.subscribed := by
  cases h with
  | subscribe => exact ⟨rfl, rfl, Nat.le_succ _⟩
  | hear r =>
    obtain ⟨hraised, hsent, hsubscribed⟩ := receive_keeps s r
    exact ⟨hraised, hsent, Nat.le_of_eq hsubscribed.symm⟩
  | _ => exact ⟨rfl, rfl, Nat.le_refl _⟩

/-- A task leaves the receivers of all others where they are. -/
theorem Step.position?_of_ne (h : Step s t s' t') (hown : t.receiver? ≠ some r)
    (hknown : r < s.subscribed) : s'.position? r = s.position? r := by
  have hne : ∀ q, t.receiver? = some q → r ≠ q := fun q hq hrq => hown (hrq ▸ hq)
  cases h with
  | subscribe => rw [position?_subscribe, if_neg (Nat.ne_of_lt hknown)]
  | see q _ => rw [position?_unsubscribe, if_neg (hne q rfl)]
  | hear q _ =>
    rw [position?_unsubscribe, if_neg (hne q rfl), position?_receive_of_ne (hne q rfl)]
  | leave q hq => rw [position?_unsubscribe, if_neg (hne q hq)]
  | pass _ _ | wake _ | look _ | wait _ => rfl

/-- The receiver of a task is the one it had, or a new one that is past all broadcasts. -/
theorem Step.receiver?_cases (h : Step s t s' t') (hr : t'.receiver? = some r) :
    (t.receiver? = some r ∧ s' = s) ∨
      (r = s.subscribed ∧ s' = s.subscribe.2 ∧ t' = .looking r) := by
  cases h with
  | subscribe => cases hr; exact .inr ⟨rfl, rfl, rfl⟩
  | pass q _ | wake q | look q | wait q => cases hr; exact .inl ⟨rfl, rfl⟩
  | see q _ | hear q _ | leave q _ => cases hr

/-- A task gets past the flag only while it is down. -/
theorem Step.pastLook?_cases (h : Step s t s' t') (hr : t'.pastLook? = some r) :
    s' = s ∧ (t.pastLook? = some r ∨ t = .looking r ∧ s.raised = false) := by
  cases h with
  | pass q hraised => cases hr; exact ⟨rfl, .inr ⟨rfl, hraised⟩⟩
  | wake q | wait q => cases hr; exact ⟨rfl, .inl rfl⟩
  | subscribe | see q _ | look q | hear q _ | leave q _ => cases hr

end Task

/-- The signal, the calls of `trigger` and the tasks. -/
structure Watch where
  /-- The signal. -/
  signal : StopSignal := {}
  /-- Number of calls that have raised the flag and not broadcast yet. -/
  midway : Nat := 0
  /-- Number of calls that have returned. -/
  returned : Nat := 0
  /-- The tasks. -/
  tasks : Nat → Task := fun _ => .starting

namespace Watch

/-- One step of a call, of a task, or of somebody who has a receiver and never looks at the
flag. -/
inductive Step (w : Watch) : Watch → Prop where
  | raise : Step w { w with signal := w.signal.raise, midway := w.midway + 1 }
  | broadcast (hmidway : 0 < w.midway) :
      Step w { w with
        signal := w.signal.broadcast, midway := w.midway - 1, returned := w.returned + 1 }
  | task (i : Nat) {s : StopSignal} {t : Task} (h : Task.Step w.signal (w.tasks i) s t) :
      Step w { w with signal := s, tasks := Function.update w.tasks i t }
  | join : Step w { w with signal := w.signal.subscribe.2 }
  | listen (r : Nat) (hother : ∀ i, (w.tasks i).receiver? ≠ some r) :
      Step w { w with signal := (w.signal.receive r).2 }
  | part (r : Nat) (hother : ∀ i, (w.tasks i).receiver? ≠ some r) :
      Step w { w with signal := (w.signal.unsubscribe r).2 }

/-- The states that are reached from the one in which nobody has done anything. -/
inductive Reached : Watch → Prop where
  | start : Reached {}
  | step {w w' : Watch} (h : Reached w) (hstep : Step w w') : Reached w'

/-- What holds of the calls and of the tasks' receivers at all times. -/
structure Sound (w : Watch) : Prop where
  /-- Each call that has returned has broadcast once. -/
  sent : w.signal.sent = w.returned
  /-- The flag is up if and only if a call has begun. -/
  raised : w.signal.raised = true ↔ 0 < w.midway + w.returned
  /-- No two tasks share a receiver. -/
  apart : ∀ i j r, (w.tasks i).receiver? = some r → (w.tasks j).receiver? = some r → i = j
  /-- A receiver of a task is one that has been handed out. -/
  known : ∀ i r, (w.tasks i).receiver? = some r → r < w.signal.subscribed
  /-- A receiver of a task is there. -/
  there : ∀ i r, (w.tasks i).receiver? = some r →
    ∃ n, w.signal.position? r = some n ∧ n ≤ w.signal.sent
  /-- Who has found the flag down is past no broadcast. -/
  first : ∀ i r, (w.tasks i).pastLook? = some r → w.signal.position? r = some 0
  /-- A task that stopped for the signal was given one. -/
  asked : ∀ i why, w.tasks i = .ended why → why ≠ .other → w.signal.raised = true

variable {w w' : Watch}

/-- A change of the signal that touches no receiver of a task keeps what is known of them. -/
theorem Sound.of_signal (hsound : w.Sound) {s : StopSignal} (hsent : s.sent = w.signal.sent)
    (hraised : s.raised = w.signal.raised) (hsubscribed : w.signal.subscribed ≤ s.subscribed)
    (hkept : ∀ i r, (w.tasks i).receiver? = some r → s.position? r = w.signal.position? r) :
    ({ w with signal := s } : Watch).Sound where
  sent := hsent.trans hsound.sent
  raised := by simpa only [hraised] using hsound.raised
  apart := hsound.apart
  known i r h := Nat.lt_of_lt_of_le (hsound.known i r h) hsubscribed
  there i r h := by simpa only [hkept i r h, hsent] using hsound.there i r h
  first i r h := (hkept i r (Task.receiver?_of_pastLook? h)).trans (hsound.first i r h)
  asked i why h hwhy := hraised.trans (hsound.asked i why h hwhy)

/-- The flag is down if nothing has been broadcast. -/
theorem Sound.sent_eq_zero (hsound : w.Sound) (h : w.signal.raised = false) :
    w.signal.sent = 0 := by
  have hnone : ¬ 0 < w.midway + w.returned := fun hpos => by
    simp [hsound.raised.mpr hpos] at h
  have := hsound.sent
  omega

theorem Sound.raise (hsound : w.Sound) :
    ({ w with signal := w.signal.raise, midway := w.midway + 1 } : Watch).Sound where
  sent := hsound.sent
  raised := ⟨fun _ => by dsimp only; omega, fun _ => rfl⟩
  apart := hsound.apart
  known := hsound.known
  there := hsound.there
  first := hsound.first
  asked _ _ _ _ := rfl

theorem Sound.broadcast (hsound : w.Sound) (hmidway : 0 < w.midway) :
    ({ w with
      signal := w.signal.broadcast
      midway := w.midway - 1
      returned := w.returned + 1 } : Watch).Sound where
  sent := congrArg (· + 1) hsound.sent
  raised := ⟨fun _ => by dsimp only; omega, fun _ => hsound.raised.mpr (by omega)⟩
  apart := hsound.apart
  known := hsound.known
  there i r h := by
    obtain ⟨n, hn, hle⟩ := hsound.there i r h
    exact ⟨n, hn, Nat.le_succ_of_le hle⟩
  first := hsound.first
  asked := hsound.asked

/-- A task that stops for the signal was given one. -/
theorem Sound.raised_of_ended (hsound : w.Sound) {i : Nat} {s : StopSignal} {why : Ending}
    (h : Task.Step w.signal (w.tasks i) s (.ended why)) (hwhy : why ≠ .other) :
    w.signal.raised = true := by
  generalize ht : w.tasks i = t at h
  cases h with
  | see r hraised => exact hraised
  | leave => exact absurd rfl hwhy
  | hear r hsome =>
    have hfirst := hsound.first i r (by rw [ht]; rfl)
    by_contra hdown
    have hnone := hsound.sent_eq_zero (by simpa using hdown)
    exact hsome (by rw [receive_of_first hfirst, if_pos hnone])

theorem Sound.task (hsound : w.Sound) {i : Nat} {s : StopSignal} {t : Task}
    (h : Task.Step w.signal (w.tasks i) s t) :
    ({ w with signal := s, tasks := Function.update w.tasks i t } : Watch).Sound := by
  obtain ⟨hraised, hsent, hsubscribed⟩ := h.keeps
  -- The receivers of the others stay, and are not the one this task may get.
  have hothers : ∀ j r, j ≠ i → (w.tasks j).receiver? = some r →
      s.position? r = w.signal.position? r ∧ t.receiver? ≠ some r := by
    intro j r hj hr
    have hown : (w.tasks i).receiver? ≠ some r := fun hi => hj (hsound.apart j i r hr hi)
    have hknown := hsound.known j r hr
    refine ⟨h.position?_of_ne hown hknown, fun ht => ?_⟩
    obtain ⟨hi, -⟩ | ⟨hnew, -⟩ := h.receiver?_cases ht
    · exact hown hi
    · omega
  constructor
  case sent => exact hsent.trans hsound.sent
  case raised => simpa only [hraised] using hsound.raised
  case apart =>
    intro j k r hj hk
    simp only [Function.update_apply] at hj hk
    split at hj <;> split at hk
    · simp_all
    · exact absurd hj (hothers k r ‹_› hk).2
    · exact absurd hk (hothers j r ‹_› hj).2
    · exact hsound.apart j k r hj hk
  case known =>
    intro j r hj
    simp only [Function.update_apply] at hj
    split at hj
    · obtain ⟨hi, -⟩ | ⟨rfl, rfl, -⟩ := h.receiver?_cases hj
      · exact Nat.lt_of_lt_of_le (hsound.known i r hi) hsubscribed
      · exact Nat.lt_succ_self _
    · exact Nat.lt_of_lt_of_le (hsound.known j r hj) hsubscribed
  case there =>
    intro j r hj
    simp only [Function.update_apply] at hj
    split at hj
    · obtain ⟨hi, rfl⟩ | ⟨rfl, rfl, -⟩ := h.receiver?_cases hj
      · exact hsound.there i r hi
      · exact ⟨w.signal.sent, by simp, Nat.le_refl _⟩
    · simpa only [(hothers j r ‹_› hj).1, hsent] using hsound.there j r hj
  case first =>
    intro j r hj
    simp only [Function.update_apply] at hj
    split at hj
    · obtain ⟨rfl, hi | ⟨hi, hdown⟩⟩ := h.pastLook?_cases hj
      · exact hsound.first i r hi
      · obtain ⟨n, hn, hle⟩ := hsound.there i r (by rw [hi]; rfl)
        rw [hsound.sent_eq_zero hdown, Nat.le_zero] at hle
        exact hle ▸ hn
    · exact (hothers j r ‹_› (Task.receiver?_of_pastLook? hj)).1.trans (hsound.first j r hj)
  case asked =>
    intro j why hj hwhy
    simp only [Function.update_apply] at hj
    split at hj
    · subst hj
      exact hraised.trans (hsound.raised_of_ended h hwhy)
    · exact hraised.trans (hsound.asked j why hj hwhy)

theorem Sound.step (hsound : w.Sound) (h : Step w w') : w'.Sound := by
  cases h with
  | raise => exact hsound.raise
  | broadcast hmidway => exact hsound.broadcast hmidway
  | task i h => exact hsound.task h
  | join =>
    refine hsound.of_signal rfl rfl (Nat.le_succ _) fun i r hr => ?_
    rw [position?_subscribe, if_neg (Nat.ne_of_lt (hsound.known i r hr))]
  | listen q hother =>
    obtain ⟨hraised, hsent, hsubscribed⟩ := receive_keeps w.signal q
    refine hsound.of_signal hsent hraised (Nat.le_of_eq hsubscribed.symm) fun i r hr => ?_
    exact position?_receive_of_ne fun hrq => hother i (hrq ▸ hr)
  | part q hother =>
    refine hsound.of_signal rfl rfl (Nat.le_refl _) fun i r hr => ?_
    have hne : r ≠ q := fun hrq => hother i (hrq ▸ hr)
    rw [position?_unsubscribe, if_neg hne]

theorem Reached.sound (h : Reached w) : w.Sound := by
  induction h with
  | start =>
    exact
      { sent := rfl
        raised := by simp
        apart := fun _ _ _ hi => nomatch hi
        known := fun _ _ hi => nomatch hi
        there := fun _ _ hi => nomatch hi
        first := fun _ _ hi => nomatch hi
        asked := fun _ _ hi => nomatch hi }
  | step _ hstep ih => exact ih.step hstep

/-! ## The results -/

/-- **No signal is missed.**  Once a call has returned, a waiting task receives the broadcast,
or, after several, how many it has missed; and a task that is about to look at the flag stops
without waiting. -/
theorem Reached.heard (h : Reached w) (hreturned : 0 < w.returned) (i r : Nat) :
    (w.tasks i = .waiting r →
      (w.signal.receive r).1 = if w.returned = 1 then .signal else .lagged (w.returned - 1)) ∧
    (w.tasks i = .looking r → ∀ s t, Task.Step w.signal (w.tasks i) s t →
      t = .ended .flag ∨ t = .ended .other) := by
  have hsound := h.sound
  refine ⟨fun hwaiting => ?_, fun hlooking s t hstep => ?_⟩
  · have hfirst := hsound.first i r (by rw [hwaiting]; rfl)
    rw [receive_of_first hfirst, hsound.sent, if_neg (Nat.ne_of_gt hreturned)]
  · have hup : w.signal.raised = true := hsound.raised.mpr (by omega)
    rw [hlooking] at hstep
    cases hstep with
    | see _ _ => exact .inl rfl
    | pass _ hdown => simp [hup] at hdown
    | leave _ _ => exact .inr rfl

/-- The first task waits while a second subscribes between the two steps of a call; another
call follows. -/
def twoCalls : Watch where
  signal := ({} : StopSignal).subscribe.2.raise.subscribe.2.broadcast.raise.broadcast
  returned := 2
  tasks := Function.update (Function.update (fun _ => .starting) 0 (.waiting 0)) 1 (.looking 1)

theorem reached_twoCalls : Reached twoCalls := by
  have hsubscribed : Reached
      { signal := ({} : StopSignal).subscribe.2
        tasks := Function.update (fun _ => .starting) 0 (.looking 0) } :=
    .step .start (.task 0 .subscribe)
  have hwaiting : Reached
      { signal := ({} : StopSignal).subscribe.2
        tasks := Function.update (fun _ => .starting) 0 (.waiting 0) } := by
    simpa using hsubscribed.step (.task 0 (.pass 0 rfl))
  have hlooking : Reached
      { signal := ({} : StopSignal).subscribe.2.raise.subscribe.2
        midway := 1
        tasks := twoCalls.tasks } :=
    (hwaiting.step .raise).step (.task 1 .subscribe)
  exact ((hlooking.step (.broadcast (by decide))).step .raise).step (.broadcast (by decide))

theorem Reached.heard_of_two_calls :
    (Reached twoCalls ∧ 0 < twoCalls.returned) ∧
      (twoCalls.signal.receive 0).1 = .lagged 1 ∧
      ∀ s t, Task.Step twoCalls.signal (.looking 1) s t → t = .ended .flag ∨ t = .ended .other := by
  have hreturned : 0 < twoCalls.returned := by decide
  exact ⟨⟨reached_twoCalls, hreturned⟩,
    (Reached.heard reached_twoCalls hreturned 0 0).1 rfl,
    (Reached.heard reached_twoCalls hreturned 1 1).2 rfl⟩

/-- **Nobody stops for a signal that nobody has given.**  A task that has found the flag up, or
that has received something, did so after a call had begun. -/
theorem Reached.asked (h : Reached w) {i : Nat} {why : Ending} (hended : w.tasks i = .ended why)
    (hwhy : why ≠ .other) : 0 < w.midway + w.returned :=
  h.sound.raised.mp (h.sound.asked i why hended hwhy)

end Watch

end StopSignal

end StreamBalancer
