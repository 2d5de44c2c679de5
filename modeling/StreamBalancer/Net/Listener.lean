import StreamBalancer.Delay
import StreamBalancer.Listen

/-!
# StreamBalancer.Net.Listener

The accept loop of a listener.  It takes one connection at a time through three
waits:

1. for a connection to accept;
2. for a permit, of which there is a fixed number for all listeners;
3. for room in the queue of accepted requests.

Connections behind the one taken stay in the backlog.  A signal to stop is
noticed in the first two waits, and the loss of the queue's reader in the third.
When the loop ends, the connection it has taken and those in the backlog are
hung up on.

Accepting may fail, for want of file descriptors or because a connection is broken.
The loop then pauses, the longer the more often in a row that happens, and notices
nothing.
-/

namespace StreamBalancer

/-- What the listeners share: the permits, the queue of requests and the clock. -/
structure Entrance where
  /-- Free permits. -/
  permits : Nat
  /-- Most requests in the queue. -/
  capacity : Nat
  /-- The requests in the queue, by their connections. -/
  queue : List Nat := []
  /-- Whether somebody reads the queue. -/
  isRead : Bool := true
  /-- The connections hung up on. -/
  closed : List Nat := []
  /-- The clock, in milliseconds. -/
  now : Nat := 0
deriving DecidableEq, Repr, Inhabited

namespace Entrance

/-- Hang up on connections. -/
def hangUp (g : Entrance) (connections : List Nat) : Entrance :=
  { g with closed := g.closed ++ connections }

/-- Drop a request: its permit is given back. -/
def drop (g : Entrance) (connection : Nat) : Entrance :=
  { g.hangUp [connection] with permits := g.permits + 1 }

/-- Take the oldest request out of the queue. -/
def take (g : Entrance) : Option (Nat × Entrance) :=
  match g.queue with
  | [] => none
  | connection :: rest => some (connection, { g with queue := rest })

/-- The reader goes away, and all requests in the queue are dropped. -/
def abandon (g : Entrance) : Entrance :=
  { g.queue.foldl drop g with queue := [], isRead := false }

end Entrance

/-- What an accept loop waits for. -/
inductive Listener.Stage where
  /-- A connection. -/
  | accepting
  /-- The end of a pause, at a point in time. -/
  | pausing (wakeup : Nat)
  /-- A permit for a connection. -/
  | acquiring (connection : Nat)
  /-- Room in the queue for a request. -/
  | sending (connection : Nat)
  /-- Nothing: it has ended. -/
  | ended
deriving DecidableEq, Repr, Inhabited

/-- A listener with its accept loop. -/
structure Listener where
  /-- The endpoint, as bound. -/
  address : ListenAddress
  /-- Connections that were not accepted, the oldest first. -/
  backlog : List Nat := []
  /-- What the loop waits for. -/
  stage : Listener.Stage := .accepting
  /-- Whether it has been asked to stop. -/
  signalled : Bool := false
  /-- How often accepting has failed since it last succeeded, as a 32-bit word that stops at the
  largest one. -/
  failures : Nat := 0
deriving DecidableEq, Repr, Inhabited

namespace Listener

/-- Whether the loop has not ended. -/
def isRunning (l : Listener) : Bool := l.stage ≠ .ended

/-- What the origin of a request is called. -/
def peerLabel (l : Listener) : String :=
  match l.address with
  | .tcp _ => "tcp"
  | .unix path => "unix:" ++ path

/-- The loop ends, and the connections it has left are hung up on. -/
def finish (l : Listener) (g : Entrance) (taken : List Nat) : Listener × Entrance :=
  ({ l with stage := .ended, backlog := [] }, g.hangUp (taken ++ l.backlog))

/-- The pause after the first failure in a row, before its random addition, in milliseconds. -/
def firstPause : Nat := 10

/-- The longest pause. -/
def longestPause : Nat := 1000

/-- Accepting fails, `none` if the loop is not about to accept.  If it fails for the next
connection, that one is gone. -/
def fail? (l : Listener) (now draw : Nat) (broken : Bool) : Option Listener :=
  match l.stage with
  | .accepting =>
    let failures := Nat.min (l.failures + 1) (UInt32.size - 1)
    some { l with
      backlog := if broken then l.backlog.tail else l.backlog
      stage := .pausing (now + Delay.backoff draw failures firstPause longestPause)
      failures }
  | _ => none

/-- The next step of the loop, `none` if it waits or has ended. -/
def step? (l : Listener) (g : Entrance) : Option (Listener × Entrance) :=
  match l.stage with
  | .ended => none
  | .accepting =>
    if l.signalled then some (l.finish g [])
    else
      match l.backlog with
      | [] => none
      | connection :: rest =>
        some ({ l with backlog := rest, stage := .acquiring connection, failures := 0 }, g)
  | .pausing wakeup => if wakeup ≤ g.now then some ({ l with stage := .accepting }, g) else none
  | .acquiring connection =>
    if l.signalled then some (l.finish g [connection])
    else if 0 < g.permits then
      some ({ l with stage := .sending connection }, { g with permits := g.permits - 1 })
    else none
  | .sending connection =>
    if !g.isRead then some (l.finish (g.drop connection) [])
    else if g.queue.length < g.capacity then
      some ({ l with stage := .accepting }, { g with queue := g.queue ++ [connection] })
    else none

/-- At most so many steps. -/
def steps : Nat → Listener → Entrance → Listener × Entrance
  | 0, l, g => (l, g)
  | n + 1, l, g =>
    match l.step? g with
    | some (l, g) => steps n l g
    | none => (l, g)

/-- Go on until the loop waits.  Each connection takes three steps. -/
def settle (l : Listener) (g : Entrance) : Listener × Entrance :=
  steps (3 * l.backlog.length + 4) l g

/-- A client connects; false if nobody listens any more. -/
def connect (l : Listener) (connection : Nat) : Bool × Listener :=
  if l.isRunning then (true, { l with backlog := l.backlog ++ [connection] }) else (false, l)

/-- Ask the loop to stop; false if it has ended. -/
def signal (l : Listener) : Bool × Listener := (l.isRunning, { l with signalled := true })

end Listener

end StreamBalancer
