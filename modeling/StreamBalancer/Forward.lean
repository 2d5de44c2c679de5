import StreamBalancer.Opening

/-!
# StreamBalancer.Forward

The work on one request after its dispatch: find a route, let the two byte
streams be spliced, and report how it ended.  The report comes last; before it
the forward leaves the count of forwards in flight.
-/

namespace StreamBalancer

/-- How a forward ended. -/
inductive Outcome where
  /-- Both byte streams came to their end. -/
  | completed
  /-- The splice broke. -/
  | failed
  /-- No route was found; the request is handed back. -/
  | dialFailed (request : Nat)
deriving DecidableEq, Repr

/-- The verdict that an outcome counts as. -/
def Outcome.verdict : Outcome → Verdict
  | completed => .completed
  | failed => .failed
  | dialFailed _ => .dialFailed

/-- The request that an outcome hands back. -/
def Outcome.request? : Outcome → Option Nat
  | dialFailed request => some request
  | _ => none

/-- The report of a forward. -/
structure Finished where
  /-- The backend instance. -/
  backend : Nat
  /-- How it ended. -/
  outcome : Outcome
deriving DecidableEq, Repr

/-- How far a forward has come. -/
inductive Forward.Stage where
  /-- Dispatched. -/
  | starting
  /-- Looks for a route. -/
  | opening (search : Opening)
  /-- Copies bytes between the client and a route. -/
  | splicing (route : Route)
  /-- Is over and still counts as in flight. -/
  | ended (outcome : Outcome)
  /-- Is about to report. -/
  | reporting (outcome : Outcome)
deriving DecidableEq, Repr

/-- The work on one request. -/
structure Forward where
  /-- The request. -/
  request : Nat
  /-- The backend instance. -/
  backend : Nat
  /-- How far it has come. -/
  stage : Forward.Stage := .starting
deriving DecidableEq, Repr

/-- Whether the forward counts as in flight. -/
def Forward.inFlight (f : Forward) : Bool :=
  match f.stage with
  | .reporting _ => false
  | _ => true

end StreamBalancer
