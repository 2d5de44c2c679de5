import StreamBalancer.Net.Bind
import StreamBalancer.Net.Listener

/-!
# StreamBalancer.Net.Listeners

Several listeners with common permits.

1. A permit goes to the listener that has waited for one the longest.
2. A listener that has moved goes behind the others, so the listeners stand in
   the order in which they came to wait.
-/

namespace StreamBalancer

/-- A listener with its number. -/
structure Listeners.Entry where
  /-- The number. -/
  number : Nat
  /-- The listener. -/
  listener : Listener
deriving DecidableEq, Repr, Inhabited

/-- The listeners, the one that has waited the longest first. -/
structure Listeners where
  /-- The listeners with their numbers. -/
  entries : List Listeners.Entry := []
deriving DecidableEq, Repr, Inhabited

namespace Listeners

/-- The listeners at endpoints, numbered from zero. -/
def ofAddresses (addresses : List ListenAddress) : Listeners :=
  ⟨addresses.zipIdx.map fun (address, number) => ⟨number, { address }⟩⟩

/-- The first of some listeners that can move does so and goes behind the others;
`none` if all of them wait. -/
def stepEntries? (g : Entrance) : List Entry → Option (List Entry × Entrance)
  | [] => none
  | e :: rest =>
    match e.listener.step? g with
    | some (listener, g) => some (rest ++ [{ e with listener }], g)
    | none => (stepEntries? g rest).map fun (rest, g) => (e :: rest, g)

/-- The next step of the listeners, `none` if all of them wait. -/
def step? (ls : Listeners) (g : Entrance) : Option (Listeners × Entrance) :=
  (stepEntries? g ls.entries).map fun (entries, g) => (⟨entries⟩, g)

/-- At most so many steps. -/
def steps : Nat → Listeners → Entrance → Listeners × Entrance
  | 0, ls, g => (ls, g)
  | n + 1, ls, g =>
    match ls.step? g with
    | some (ls, g) => steps n ls g
    | none => (ls, g)

/-- A number of steps that is enough: three for each connection and for each end. -/
def stepLimit (ls : Listeners) : Nat :=
  ls.entries.foldl (fun n e => n + 3 * e.listener.backlog.length + 4) 0

/-- Go on until all listeners wait. -/
def settle (ls : Listeners) (g : Entrance) : Listeners × Entrance := steps ls.stepLimit ls g

/-- A client connects to the listener with a number; false if nobody listens there. -/
def connect (ls : Listeners) (number connection : Nat) : Bool × Listeners :=
  (ls.entries.any fun e => e.number == number && e.listener.isRunning,
    ⟨ls.entries.map fun e =>
      if e.number = number then { e with listener := (e.listener.connect connection).2 } else e⟩)

/-- Ask all listeners to stop. -/
def signal (ls : Listeners) : Listeners :=
  ⟨ls.entries.map fun e => { e with listener := e.listener.signal.2 }⟩

/-- The connections that were not accepted. -/
def backlog (ls : Listeners) : List Nat := (ls.entries.map fun e => e.listener.backlog).flatten

/-- The endpoints of the listeners that run. -/
def running (ls : Listeners) : List ListenAddress :=
  (ls.entries.filter fun e => e.listener.isRunning).map fun e => e.listener.address

/-- Ask all listeners to stop and let them end.  An endpoint is released when its
listener ends. -/
def finish (ls : Listeners) (g : Entrance) (b : Bound) : Listeners × Entrance × Bound :=
  match ls.signal.settle g with
  | (after, g) =>
    (after, g, (ls.running.filter fun a => a ∉ after.running).foldl Bound.release b)

end Listeners

end StreamBalancer
