/-!
# StreamBalancer.Metrics

Counters and gauges.  A series exists from the moment it is first touched, also
when that adds nothing to it; an untouched series has no value.
-/

namespace StreamBalancer

/-- How a request's forward ended. -/
inductive Verdict where
  | completed
  | failed
  | dialFailed
deriving DecidableEq, Repr

/-- What can happen to a tunnel session. -/
inductive SessionEvent where
  | established
  | failed
  | evicted
  | replaced
deriving DecidableEq, Repr

/-- The direction of forwarded bytes, seen from the backend. -/
inductive Direction where
  /-- From the backend to the client. -/
  | received
  /-- From the client to the backend. -/
  | sent
deriving DecidableEq, Repr

/-- A counter or gauge. -/
inductive Series where
  | requests (verdict : Verdict)
  | rescheduled
  | rejected
  | sessions (event : SessionEvent)
  | bytes (direction : Direction)
  | backends
  | poolSize
  | pending
  | ongoing (address : String)
deriving DecidableEq, Repr

/-- The label of a verdict. -/
def Verdict.label : Verdict → String
  | completed => "completed"
  | failed => "failed"
  | dialFailed => "dial_failed"

/-- The label of a session event. -/
def SessionEvent.label : SessionEvent → String
  | established => "established"
  | failed => "failed"
  | evicted => "evicted"
  | replaced => "replaced"

/-- The label of a direction. -/
def Direction.label : Direction → String
  | received => "rx"
  | sent => "tx"

namespace Series

/-- A series name with its labels. -/
private def labelled (name labels : String) : String := name ++ "\x7b" ++ labels ++ "\x7d"

/-- The exported name of a series. -/
def name : Series → String
  | requests verdict => labelled "balancer_requests_total" ("outcome=" ++ verdict.label)
  | rescheduled => labelled "balancer_rescheduled_total" ""
  | rejected => labelled "balancer_rejected_total" ""
  | sessions event => labelled "balancer_tunnel_sessions_total" ("event=" ++ event.label)
  | bytes direction => labelled "balancer_bytes_total" ("direction=" ++ direction.label)
  | backends => labelled "balancer_backends" ""
  | poolSize => labelled "balancer_pool_size" ""
  | pending => labelled "balancer_pending" ""
  | ongoing address => labelled "balancer_backend_ongoing" ("backend=" ++ address)

end Series

/-- The touched series with their values. -/
structure Metrics where
  /-- One entry per touched series. -/
  values : List (Series × Nat) := []
deriving Repr, Inhabited, DecidableEq

namespace Metrics

/-- Change the entry of a series, or create it from nothing. -/
def alter (f : Option Nat → Nat) (s : Series) : List (Series × Nat) → List (Series × Nat)
  | [] => [(s, f none)]
  | (t, n) :: rest => if t = s then (s, f (some n)) :: rest else (t, n) :: alter f s rest

/-- The value of a series, if it was touched. -/
def value? (m : Metrics) (s : Series) : Option Nat := m.values.lookup s

/-- The value of a series, zero if it was not touched. -/
def value (m : Metrics) (s : Series) : Nat := (m.value? s).getD 0

/-- Add to a counter. -/
def add (m : Metrics) (s : Series) (n : Nat) : Metrics :=
  ⟨alter (fun old => old.getD 0 + n) s m.values⟩

/-- Count one more. -/
def count (m : Metrics) (s : Series) : Metrics := m.add s 1

/-- Set a gauge. -/
def set (m : Metrics) (s : Series) (n : Nat) : Metrics := ⟨alter (fun _ => n) s m.values⟩

end Metrics

end StreamBalancer
