import StreamBalancer.Net.Listeners
import StreamBalancer.Proofs.Delay
import StreamBalancer.Proofs.Keyed

/-!
# StreamBalancer.Proofs.Listeners

What the loop of a listener does to connections, permits and the queue.

1. A connection waits in the backlog and for a permit, and is sent once it has one.
2. If a signal comes together with what the loop waits for, the loop may heed either, and
   accepting may fail at any time (`Listener.Acts`).  The loop then pauses, up to a second and
   a tenth (`Listener.pauses_of_fail?`).
3. The loop takes one permit for one connection that waited, puts one request that it was
   sending into the queue, or drops it and gives its permit back; in all other steps permits
   and queue stay (`Listener.Acts.passes`).
4. What one of several listeners does, it does to all of them together
   (`Listeners.passes_of_listener`).
-/

namespace StreamBalancer

namespace Listener

/-- The connections without a permit. -/
def waiting (l : Listener) : List Nat :=
  match l.stage with
  | .acquiring connection => connection :: l.backlog
  | _ => l.backlog

/-- The connection with a permit. -/
def sending? (l : Listener) : Option Nat :=
  match l.stage with
  | .sending connection => some connection
  | _ => none

/-- A step of the loop.  It may overlook a signal that came together with what it waits for, and
fail to accept. -/
inductive Acts (l : Listener) (g : Entrance) : Listener → Entrance → Prop where
  | heeds {l' : Listener} {g' : Entrance} (h : l.step? g = some (l', g')) : Acts l g l' g'
  | overlooks {l' : Listener} {g' : Entrance} (hsignalled : l.signalled = true)
      (h : ({ l with signalled := false }).step? g = some (l', g')) :
      Acts l g { l' with signalled := true } g'
  | fails {l' : Listener} (draw : Nat) (broken : Bool) (h : l.fail? g.now draw broken = some l') :
      Acts l g l' g

/-- What a step does to connections, permits and the queue. -/
inductive Passes (l : Listener) (g : Entrance) (l' : Listener) (g' : Entrance) : Prop where
  /-- Connections wait on, or are hung up on. -/
  | waits (hwaiting : l'.waiting.Sublist l.waiting) (hsending : l'.sending? = l.sending?)
      (hpermits : g'.permits = g.permits) (hqueue : g'.queue = g.queue)
  /-- A connection that waited gets a permit. -/
  | acquires (c : Nat) (hwaiting : l.waiting = c :: l'.waiting) (hold : l.sending? = none)
      (hnew : l'.sending? = some c) (hpermits : g.permits = g'.permits + 1)
      (hqueue : g'.queue = g.queue)
  /-- The request that was being sent is queued. -/
  | sends (c : Nat) (hwaiting : l'.waiting = l.waiting) (hold : l.sending? = some c)
      (hnew : l'.sending? = none) (hpermits : g'.permits = g.permits)
      (hqueue : g'.queue = g.queue ++ [c])
  /-- The request that was being sent is dropped. -/
  | drops (c : Nat) (hwaiting : l'.waiting.Sublist l.waiting) (hold : l.sending? = some c)
      (hnew : l'.sending? = none) (hpermits : g'.permits = g.permits + 1)
      (hqueue : g'.queue = g.queue)

variable {l l' : Listener} {g g' : Entrance}

/-- What the loop does when it goes on. -/
inductive Moves (l : Listener) (g : Entrance) : Listener → Entrance → Prop where
  /-- It takes a connection. -/
  | accepts {c : Nat} {rest : List Nat} (hstage : l.stage = .accepting)
      (hbacklog : l.backlog = c :: rest) :
      Moves l g { l with backlog := rest, stage := .acquiring c, failures := 0 } g
  /-- Its pause is over. -/
  | wakes {wakeup : Nat} (hstage : l.stage = .pausing wakeup) (h : wakeup ≤ g.now) :
      Moves l g { l with stage := .accepting } g
  /-- It gets a permit. -/
  | acquires {c : Nat} (hstage : l.stage = .acquiring c) (hfree : 0 < g.permits) :
      Moves l g { l with stage := .sending c } { g with permits := g.permits - 1 }
  /-- Its request is queued. -/
  | sends {c : Nat} (hstage : l.stage = .sending c) :
      Moves l g { l with stage := .accepting } { g with queue := g.queue ++ [c] }
  /-- It ends before it has taken a connection, -/
  | stops (hstage : l.stage = .accepting) : Moves l g (l.finish g []).1 (l.finish g []).2
  /-- or before that has a permit. -/
  | refuses {c : Nat} (hstage : l.stage = .acquiring c) :
      Moves l g (l.finish g [c]).1 (l.finish g [c]).2
  /-- It ends because nobody takes its request. -/
  | drops {c : Nat} (hstage : l.stage = .sending c) :
      Moves l g (l.finish (g.drop c) []).1 (l.finish (g.drop c) []).2

theorem moves_of_step? (h : l.step? g = some (l', g')) : l.Moves g l' g' := by
  unfold step? at h
  split at h
  · contradiction
  · next hstage =>
    split at h
    · obtain ⟨rfl, rfl⟩ := Prod.mk.inj (Option.some.inj h)
      exact .stops hstage
    · split at h
      · contradiction
      · next c rest hbacklog =>
        obtain ⟨rfl, rfl⟩ := Prod.mk.inj (Option.some.inj h)
        exact .accepts hstage hbacklog
  · next wakeup hstage =>
    split at h
    · next hwakeup =>
      obtain ⟨rfl, rfl⟩ := Prod.mk.inj (Option.some.inj h)
      exact .wakes hstage hwakeup
    · contradiction
  · next c hstage =>
    split at h
    · obtain ⟨rfl, rfl⟩ := Prod.mk.inj (Option.some.inj h)
      exact .refuses hstage
    · split at h
      · next hfree =>
        obtain ⟨rfl, rfl⟩ := Prod.mk.inj (Option.some.inj h)
        exact .acquires hstage hfree
      · contradiction
  · next c hstage =>
    split at h
    · obtain ⟨rfl, rfl⟩ := Prod.mk.inj (Option.some.inj h)
      exact .drops hstage
    · split at h
      · obtain ⟨rfl, rfl⟩ := Prod.mk.inj (Option.some.inj h)
        exact .sends hstage
      · contradiction

theorem Moves.passes (h : l.Moves g l' g') : l.Passes g l' g' := by
  have hnone : ∀ (entrance : Entrance) (taken : List Nat),
      (l.finish entrance taken).1.waiting.Sublist l.waiting := fun _ _ => List.nil_sublist _
  cases h with
  | accepts hstage hbacklog =>
      refine .waits ?_ (by simp [sending?, hstage]) rfl rfl
      simp [waiting, hstage, hbacklog]
  | wakes hstage => exact .waits (by simp [waiting, hstage]) (by simp [sending?, hstage]) rfl rfl
  | @acquires c hstage hfree =>
      exact .acquires c (by simp [waiting, hstage]) (by simp [sending?, hstage]) rfl
        (Nat.sub_add_cancel hfree).symm rfl
  | @sends c hstage =>
      exact .sends c (by simp [waiting, hstage]) (by simp [sending?, hstage]) rfl rfl rfl
  | stops hstage => exact .waits (hnone _ _) (by simp [sending?, hstage, finish]) rfl rfl
  | refuses hstage => exact .waits (hnone _ _) (by simp [sending?, hstage, finish]) rfl rfl
  | @drops c hstage => exact .drops c (hnone _ _) (by simp [sending?, hstage]) rfl rfl rfl

/-- Accepting fails only for a loop that is about to accept. -/
theorem fail?_eq_some {now draw : Nat} {broken : Bool} (h : l.fail? now draw broken = some l') :
    l.stage = .accepting ∧ l' = { l with
      backlog := if broken then l.backlog.tail else l.backlog
      stage := .pausing (now + Delay.backoff draw (Nat.min (l.failures + 1) (UInt32.size - 1))
        firstPause longestPause)
      failures := Nat.min (l.failures + 1) (UInt32.size - 1) } := by
  unfold fail? at h
  split at h
  · next hstage => exact ⟨hstage, (Option.some.inj h).symm⟩
  · contradiction

/-- **What a step of a loop does**, whether or not it heeds a signal. -/
theorem Acts.passes (h : l.Acts g l' g') : l.Passes g l' g' := by
  cases h with
  | heeds h => exact (moves_of_step? h).passes
  | overlooks _ h =>
      -- neither the waiting nor the sent connections depend on the signal
      cases (moves_of_step? h).passes with
      | waits hwaiting hsending hpermits hqueue => exact .waits hwaiting hsending hpermits hqueue
      | acquires c hwaiting hold hnew hpermits hqueue =>
          exact .acquires c hwaiting hold hnew hpermits hqueue
      | sends c hwaiting hold hnew hpermits hqueue =>
          exact .sends c hwaiting hold hnew hpermits hqueue
      | drops c hwaiting hold hnew hpermits hqueue =>
          exact .drops c hwaiting hold hnew hpermits hqueue
  | fails draw broken h =>
      obtain ⟨hstage, rfl⟩ := fail?_eq_some h
      refine .waits ?_ (by simp [sending?, hstage]) rfl rfl
      have hsublist : (if broken then l.backlog.tail else l.backlog).Sublist l.backlog := by
        split
        · exact List.tail_sublist _
        · exact .refl _
      simpa [waiting, hstage] using hsublist

/-- The count of failures stops where the pause has long been the longest one. -/
theorem unboundedBase_failures (failures : Nat) :
    Delay.unboundedBase (Nat.min (failures + 1) (UInt32.size - 1)) firstPause longestPause =
      min (10 * 2 ^ failures) 1000 := by
  change (if min (failures + 1) 4294967295 = 0 then 0
    else min (10 * 2 ^ (min (failures + 1) 4294967295 - 1)) 1000) = _
  rw [if_neg (by omega)]
  obtain hle | hlt := Nat.lt_or_ge 4294967294 failures
  · have hlong : ∀ n, 4294967294 ≤ n → min (10 * 2 ^ n) 1000 = 1000 := by
      intro n hn
      have hpow : 2 ^ 7 ≤ 2 ^ n := Nat.pow_le_pow_right (by decide) (by omega)
      omega
    rw [hlong _ (by omega), hlong _ (by omega)]
  · have hcount : min (failures + 1) 4294967295 - 1 = failures := by omega
    rw [hcount]

/-- **A loop that fails to accept does not spin.**  It pauses for ten milliseconds after the first
failure in a row, and for twice as long after each further one, up to a second, with an addition
below a tenth. -/
theorem pauses_of_fail? {now draw : Nat} {broken : Bool} (h : l.fail? now draw broken = some l') :
    ∃ pause, l'.stage = .pausing (now + pause) ∧ min (10 * 2 ^ l.failures) 1000 ≤ pause ∧
      pause < min (10 * 2 ^ l.failures) 1000 + max (min (10 * 2 ^ l.failures) 1000 / 10) 1 := by
  obtain ⟨-, rfl⟩ := fail?_eq_some h
  have haround : Delay.Around _ _ _ := Delay.around_backoff (show longestPause < 2 ^ 63 by decide)
    (Nat.min (l.failures + 1) (UInt32.size - 1)) firstPause
  rw [unboundedBase_failures] at haround
  obtain ⟨j, hj, heq⟩ := haround.added draw
  exact ⟨_, rfl, by omega, by omega⟩

/-- In a pause a loop does nothing before it is over. -/
theorem Moves.of_pausing (h : l.Moves g l' g') {wakeup : Nat} (hstage : l.stage = .pausing wakeup) :
    wakeup ≤ g.now ∧ g' = g ∧ l' = { l with stage := .accepting } := by
  cases h with
  | wakes hstage' hwakeup =>
      obtain rfl := Stage.pausing.inj (hstage.symm.trans hstage')
      exact ⟨hwakeup, rfl, rfl⟩
  | accepts hstage' | acquires hstage' | sends hstage' | stops hstage' | refuses hstage'
  | drops hstage' => exact absurd (hstage.symm.trans hstage') (by simp)

theorem Acts.of_pausing (h : l.Acts g l' g') {wakeup : Nat} (hstage : l.stage = .pausing wakeup) :
    wakeup ≤ g.now ∧ g' = g ∧ l' = { l with stage := .accepting } := by
  cases h with
  | heeds h => exact (moves_of_step? h).of_pausing hstage
  | overlooks hsignalled h =>
      obtain ⟨hwakeup, hsame, rfl⟩ := (moves_of_step? h).of_pausing hstage
      exact ⟨hwakeup, hsame, by rw [← hsignalled]⟩
  | fails draw broken h => exact absurd (hstage.symm.trans (fail?_eq_some h).1) (by simp)

/-- A new connection waits, unless nobody listens. -/
theorem count_waiting_connect (l : Listener) (connection c : Nat) :
    (l.connect connection).2.waiting.count c ≤
      l.waiting.count c + if connection = c then 1 else 0 := by
  unfold connect
  split
  · have hwaiting : ({ l with backlog := l.backlog ++ [connection] } : Listener).waiting =
        l.waiting ++ [connection] := by
      obtain ⟨_, _, stage, _, _⟩ := l
      cases stage <;> rfl
    rw [hwaiting, List.count_append, List.count_singleton]
    simp only [beq_iff_eq, Nat.le_refl]
  · exact Nat.le_add_right _ _

theorem sending?_connect (l : Listener) (connection : Nat) :
    (l.connect connection).2.sending? = l.sending? := by
  unfold connect
  split <;> rfl

end Listener

namespace Listeners

/-- The connections without a permit. -/
def waiting (ls : Listeners) : List Nat := ls.entries.flatMap fun e => e.listener.waiting

/-- The connections with a permit. -/
def sending (ls : Listeners) : List Nat := ls.entries.filterMap fun e => e.listener.sending?

/-- Whether the numbers of the listeners tell them apart. -/
def Numbered (ls : Listeners) : Prop := (ls.entries.map Entry.number).Nodup

/-- What a step of one of the listeners does to connections, permits and the queue. -/
inductive Passes (ls : Listeners) (g : Entrance) (ls' : Listeners) (g' : Entrance) : Prop where
  /-- Connections wait on, or are hung up on. -/
  | waits (hwaiting : ∀ c, ls'.waiting.count c ≤ ls.waiting.count c)
      (hsending : ls'.sending.Perm ls.sending) (hpermits : g'.permits = g.permits)
      (hqueue : g'.queue = g.queue)
  /-- A connection that waited gets a permit. -/
  | acquires (c : Nat) (hwaiting : ls.waiting.Perm (c :: ls'.waiting))
      (hsending : ls'.sending.Perm (c :: ls.sending)) (hpermits : g.permits = g'.permits + 1)
      (hqueue : g'.queue = g.queue)
  /-- A request that was being sent is queued. -/
  | sends (c : Nat) (hwaiting : ls'.waiting.Perm ls.waiting)
      (hsending : ls.sending.Perm (c :: ls'.sending)) (hpermits : g'.permits = g.permits)
      (hqueue : g'.queue = g.queue ++ [c])
  /-- A request that was being sent is dropped. -/
  | drops (c : Nat) (hwaiting : ∀ c, ls'.waiting.count c ≤ ls.waiting.count c)
      (hsending : ls.sending.Perm (c :: ls'.sending)) (hpermits : g'.permits = g.permits + 1)
      (hqueue : g'.queue = g.queue)

variable {ls : Listeners} {e : Entry} {entries others front back : List Entry}

/-- One of the listeners is told apart. -/
theorem waiting_perm (h : entries.Perm (e :: others)) :
    (waiting ⟨entries⟩).Perm (e.listener.waiting ++ waiting ⟨others⟩) := by
  have hperm := h.flatMap_right fun e => e.listener.waiting
  rwa [List.flatMap_cons] at hperm

theorem sending_perm (h : entries.Perm (e :: others)) :
    (sending ⟨entries⟩).Perm (e.listener.sending?.toList ++ sending ⟨others⟩) := by
  refine (h.filterMap _).trans ?_
  rw [List.filterMap_cons]
  cases e.listener.sending? <;> exact .refl _

/-- One of the listeners is changed and goes behind the others. -/
theorem moved_perm (front back : List Entry) (e : Entry) :
    (front ++ (back ++ [e])).Perm (e :: (front ++ back)) := by
  rw [← List.append_assoc]
  exact List.perm_append_singleton e (front ++ back)

/-- **What the step of a listener does** is what it does to all of them. -/
theorem passes_of_listener (h : ls.entries = front ++ e :: back) {l : Listener} {g g' : Entrance}
    (hpasses : e.listener.Passes g l g') :
    ls.Passes g ⟨front ++ (back ++ [{ e with listener := l }])⟩ g' := by
  have hbefore : ls.entries.Perm (e :: (front ++ back)) := h ▸ List.perm_middle
  have hafter := moved_perm front back { e with listener := l }
  have hwaiting := waiting_perm hbefore
  have hwaiting' := waiting_perm hafter
  have hsending := sending_perm hbefore
  have hsending' := sending_perm hafter
  have hfewer (hsublist : l.waiting.Sublist e.listener.waiting) (c : Nat) :
      (waiting ⟨front ++ (back ++ [{ e with listener := l }])⟩).count c ≤ ls.waiting.count c := by
    rw [hwaiting'.count_eq, hwaiting.count_eq]
    exact (hsublist.append_right _).count_le c
  cases hpasses with
  | waits hsublist hsame hpermits hqueue =>
      refine .waits (hfewer hsublist) (hsending'.trans ?_) hpermits hqueue
      rw [hsame]
      exact hsending.symm
  | acquires c hc hold hnew hpermits hqueue =>
      refine .acquires c (hwaiting.trans ?_) (hsending'.trans ?_) hpermits hqueue
      · rw [hc]
        exact hwaiting'.symm.cons c
      · rw [hold] at hsending
        rw [hnew]
        exact hsending.symm.cons c
  | sends c hc hold hnew hpermits hqueue =>
      refine .sends c (hwaiting'.trans ?_) (hsending.trans ?_) hpermits hqueue
      · rw [hc]
        exact hwaiting.symm
      · rw [hnew] at hsending'
        rw [hold]
        exact hsending'.symm.cons c
  | drops c hsublist hold hnew hpermits hqueue =>
      refine .drops c (hfewer hsublist) (hsending.trans ?_) hpermits hqueue
      rw [hnew] at hsending'
      rw [hold]
      exact hsending'.symm.cons c

/-- Listeners keep their numbers. -/
theorem Numbered.moved (hnumbered : ls.Numbered) (h : ls.entries = front ++ e :: back)
    (l : Listener) : Numbered ⟨front ++ (back ++ [{ e with listener := l }])⟩ := by
  have hbefore : ls.entries.Perm (e :: (front ++ back)) := h ▸ List.perm_middle
  have hnumbers : ((front ++ (back ++ [{ e with listener := l }])).map Entry.number).Perm
      (ls.entries.map Entry.number) :=
    ((moved_perm front back { e with listener := l }).map _).trans (hbefore.map Entry.number).symm
  exact hnumbers.nodup_iff.2 hnumbered

/-- A client that connects joins those that wait, unless nobody listens. -/
theorem connect_keeps (h : ls.Numbered) (number connection : Nat) :
    (ls.connect number connection).2.Numbered ∧
    (ls.connect number connection).2.sending = ls.sending ∧
    ∀ c, (ls.connect number connection).2.waiting.count c ≤
      ls.waiting.count c + if connection = c then 1 else 0 := by
  let change (e : Entry) : Entry := { e with listener := (e.listener.connect connection).2 }
  have hconnect : (ls.connect number connection).2 =
      ⟨ls.entries.map fun e => if e.number = number then change e else e⟩ := rfl
  rw [hconnect]
  cases hfind : ls.entries.find? fun e => e.number == number with
  | none =>
      have hne := List.find?_eq_none.1 hfind
      have hsame : (ls.entries.map fun e => if e.number = number then change e else e) =
          ls.entries := by
        refine (List.map_congr_left fun e he => ?_).trans (List.map_id _)
        exact if_neg (by simpa using hne e he)
      rw [hsame]
      exact ⟨h, rfl, fun c => Nat.le_add_right _ _⟩
  | some e =>
      obtain ⟨front, back, hsplit, -, hchange, -⟩ := Keyed.split_of_find? h hfind
      rw [hchange change]
      refine ⟨?_, ?_, fun c => ?_⟩
      · rw [Numbered, hsplit] at h
        rw [Numbered]
        simpa [change] using h
      · rw [sending, sending, hsplit]
        simp only [List.filterMap_append, List.filterMap_cons, change, Listener.sending?_connect]
      · have hbefore : ls.entries.Perm (e :: (front ++ back)) := hsplit ▸ List.perm_middle
        have hafter : (front ++ change e :: back).Perm (change e :: (front ++ back)) :=
          List.perm_middle
        rw [(waiting_perm hbefore).count_eq, (waiting_perm hafter).count_eq, List.count_append,
          List.count_append]
        have hlistener := e.listener.count_waiting_connect connection c
        simp only [change]
        omega

/-- A listener that is told to stop has the same connections. -/
theorem signal_keeps (h : ls.entries = front ++ e :: back) :
    (⟨front ++ { e with listener := e.listener.signal.2 } :: back⟩ : Listeners).entries.map
        Entry.number = ls.entries.map Entry.number ∧
    sending ⟨front ++ { e with listener := e.listener.signal.2 } :: back⟩ = ls.sending ∧
    waiting ⟨front ++ { e with listener := e.listener.signal.2 } :: back⟩ = ls.waiting := by
  refine ⟨?_, ?_, ?_⟩
  · simp only [h, List.map_append, List.map_cons]
  · simp only [sending, h, List.filterMap_append, List.filterMap_cons]
    rfl
  · simp only [waiting, h, List.flatMap_append, List.flatMap_cons]
    rfl

/-- The first listener that can move does so and goes behind the others. -/
theorem step?_cases {ls ls' : Listeners} {g g' : Entrance} (h : ls.step? g = some (ls', g')) :
    ∃ front back e l, ls.entries = front ++ e :: back ∧ e.listener.step? g = some (l, g') ∧
      ls'.entries = front ++ (back ++ [{ e with listener := l }]) := by
  obtain ⟨entries⟩ := ls
  simp only [step?, Option.map_eq_some_iff, Prod.exists, Prod.mk.injEq] at h
  obtain ⟨entries', g'', h, rfl, rfl⟩ := h
  induction entries generalizing entries' with
  | nil => contradiction
  | cons e rest ih =>
      rw [stepEntries?] at h
      split at h
      · next l g₁ hstep =>
        obtain ⟨rfl, rfl⟩ := Prod.mk.inj (Option.some.inj h)
        exact ⟨[], rest, e, l, rfl, hstep, rfl⟩
      · simp only [Option.map_eq_some_iff, Prod.exists, Prod.mk.injEq] at h
        obtain ⟨after, g₁, h, rfl, rfl⟩ := h
        obtain ⟨front, back, e', l, hsplit, hstep, hafter⟩ := ih after h
        exact ⟨e :: front, back, e', l, congrArg (e :: ·) hsplit, hstep, congrArg (e :: ·) hafter⟩

theorem numbered_ofAddresses (addresses : List ListenAddress) : (ofAddresses addresses).Numbered := by
  have hnumbers : (ofAddresses addresses).entries.map Entry.number =
      List.range' 0 addresses.length := by
    rw [ofAddresses, List.map_map]
    exact List.zipIdx_map_snd 0 addresses
  rw [Numbered, hnumbers]
  exact List.nodup_range'

/-- At first nobody has connected. -/
theorem waiting_ofAddresses (addresses : List ListenAddress) :
    (ofAddresses addresses).waiting = [] := by
  refine List.flatMap_eq_nil_iff.2 fun e he => ?_
  obtain ⟨⟨address, number⟩, -, rfl⟩ := List.mem_map.1 he
  rfl

theorem sending_ofAddresses (addresses : List ListenAddress) :
    (ofAddresses addresses).sending = [] := by
  refine List.filterMap_eq_nil_iff.2 fun e he => ?_
  obtain ⟨⟨address, number⟩, -, rfl⟩ := List.mem_map.1 he
  rfl

end Listeners

end StreamBalancer
