import StreamBalancer.Delay
import StreamBalancer.Tunnel.Address

/-!
# StreamBalancer.Session

The establishment of one tunnel for one slot of a backend instance.  A session
dials the agent over and over, one dial at a time, with a delay after each
failure, until a dial gives a tunnel or nobody wants it any more.  Whether anybody
does it looks up before a dial, first at its instance and then at the signal for
shutdown; what happens after a look it does not see.
-/

namespace StreamBalancer

/-- How agents are dialed.  Times are in milliseconds. -/
structure SessionSettings where
  /-- The port of the agents. -/
  agentPort : String
  /-- Time for one dial. -/
  dialTimeout : Nat
  /-- Time between two dials, before the random addition. -/
  retryInterval : Nat
deriving DecidableEq, Repr, Inhabited

/-- How far a session has come. -/
inductive Session.Stage where
  /-- About to look whether its instance was given up. -/
  | idle
  /-- Its instance was not given up; about to look whether shutdown was signalled. -/
  | retained
  /-- The tunnel was wanted; about to dial. -/
  | cleared
  /-- A dial is out since a point in time. -/
  | dialing (since : Nat)
  /-- No dial before a point in time. -/
  | waiting (wakeup : Nat)
  /-- Has a tunnel and is about to hand it over. -/
  | established (tunnel : Nat)
deriving DecidableEq, Repr

/-- The establishment of one tunnel. -/
structure Session where
  /-- The number of the session. -/
  number : Nat
  /-- The backend instance. -/
  backend : Nat
  /-- The slot. -/
  slot : Nat
  /-- How far it has come. -/
  stage : Session.Stage := .idle
deriving DecidableEq, Repr

/-- A tunnel on its way into a slot. -/
structure Handover where
  /-- The backend instance. -/
  backend : Nat
  /-- The slot. -/
  slot : Nat
  /-- The tunnel. -/
  tunnel : Nat
deriving DecidableEq, Repr

namespace Session

/-- The session after a failed dial at a point in time. -/
def retry (settings : SessionSettings) (now draw : Nat) (x : Session) : Session :=
  { x with stage := .waiting (now + Delay.retry draw settings.retryInterval) }

/-- Whether a dial that is out has used up its time. -/
def timedOut (settings : SessionSettings) (now : Nat) (x : Session) : Bool :=
  match x.stage with
  | .dialing since => since + settings.dialTimeout ≤ now
  | _ => false

/-- Whether a dial is out. -/
def isDialing (x : Session) : Bool :=
  match x.stage with
  | .dialing _ => true
  | _ => false

end Session

end StreamBalancer
