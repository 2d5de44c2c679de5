import StreamBalancer.Registry

/-!
# StreamBalancer.StopSignal

The signal by which everything is told to stop: a flag, and a broadcast to those
who wait.

1. Triggering raises the flag first and broadcasts then.
2. A receiver gets the broadcasts made after it subscribed.
3. The channel keeps only the last broadcast.  A receiver that has missed earlier
   ones is told how many, and gets the last one when it asks again.
-/

namespace StreamBalancer

/-- What a receiver gets when it does not wait. -/
inductive Reception where
  /-- A broadcast. -/
  | signal
  /-- Nothing has been broadcast since. -/
  | empty
  /-- So many broadcasts are lost. -/
  | lagged (missed : Nat)
  /-- There is no such receiver. -/
  | gone
deriving DecidableEq, Repr

/-- The flag and the broadcast. -/
structure StopSignal where
  /-- Whether stopping has been asked for. -/
  raised : Bool := false
  /-- Number of broadcasts. -/
  sent : Nat := 0
  /-- How many broadcasts each receiver is past. -/
  receivers : Registry Nat := {}
  /-- Number of receivers ever. -/
  subscribed : Nat := 0
deriving DecidableEq, Repr, Inhabited

namespace StopSignal

/-- A new receiver, whose number is given. -/
def subscribe (s : StopSignal) : Nat × StopSignal :=
  (s.subscribed,
    { s with
      receivers := s.receivers.put s.subscribed (some s.sent)
      subscribed := s.subscribed + 1 })

/-- A receiver goes away; false if it is not there. -/
def unsubscribe (s : StopSignal) (r : Nat) : Bool × StopSignal :=
  ((s.receivers.get? r).isSome, { s with receivers := s.receivers.put r none })

/-- Raise the flag. -/
def raise (s : StopSignal) : StopSignal := { s with raised := true }

/-- Tell the receivers. -/
def broadcast (s : StopSignal) : StopSignal := { s with sent := s.sent + 1 }

/-- Ask to stop. -/
def trigger (s : StopSignal) : StopSignal := s.raise.broadcast

/-- Receive without waiting. -/
def receive (s : StopSignal) (r : Nat) : Reception × StopSignal :=
  let moveTo (n : Nat) : StopSignal := { s with receivers := s.receivers.put r (some n) }
  match s.receivers.get? r with
  | none => (.gone, s)
  | some past =>
    if s.sent ≤ past then (.empty, s)
    else if past + 1 = s.sent then (.signal, moveTo s.sent)
    else (.lagged (s.sent - 1 - past), moveTo (s.sent - 1))

/-- Number of receivers. -/
def receiverCount (s : StopSignal) : Nat :=
  ((List.range s.subscribed).filter fun r => (s.receivers.get? r).isSome).length

end StopSignal

end StreamBalancer
