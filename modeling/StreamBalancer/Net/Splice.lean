import StreamBalancer.Net.Peer

/-!
# StreamBalancer.Net.Splice

Two connections joined end to end.

1. Each direction copies what its source sends until the source has finished, and
   then shuts down its destination.  It then is done.
2. The splice is complete when both directions are done.  Until then the other
   direction goes on.
3. It fails at the first error: something has to be sent to a party that has
   vanished, or a party whose direction is not done has broken off.
4. When it is over both connections are let go.

The direction from `a` to `b` goes first.
-/

namespace StreamBalancer

/-- One direction of a splice. -/
structure CopyState where
  /-- Bytes copied. -/
  moved : Nat := 0
  /-- Whether the source has finished and the destination was told. -/
  done : Bool := false
deriving DecidableEq, Repr, Inhabited

namespace CopyState

/-- Copy what there is; `none` is an error. -/
def run (c : CopyState) (source destination : Peer) : Option (CopyState × Peer × Peer) :=
  if c.done then some (c, source, destination)
  else if source.reset then none
  else if !source.unread.isEmpty && destination.gone then none
  else
    let destination := { destination with received := destination.received ++ source.unread }
    some
      (⟨c.moved + source.unread.size, source.finished⟩, { source with unread := .empty },
        if source.finished then destination.endStream else destination)

end CopyState

/-- How a splice stands. -/
inductive SpliceStatus where
  /-- It goes on. -/
  | running
  /-- Both directions are done. -/
  | complete
  /-- It has failed. -/
  | failed
deriving DecidableEq, Repr, Inhabited

/-- Two joined connections. -/
structure Splice where
  /-- The party on one side. -/
  a : Peer := {}
  /-- The party on the other side. -/
  b : Peer := {}
  /-- The direction from `a` to `b`. -/
  forth : CopyState := {}
  /-- The direction from `b` to `a`. -/
  back : CopyState := {}
  /-- How it stands. -/
  status : SpliceStatus := .running
deriving Inhabited

namespace Splice

/-- Let both connections go. -/
def close (s : Splice) (status : SpliceStatus) : Splice :=
  { s with a := s.a.release, b := s.b.release, status }

/-- Copy what there is in both directions. -/
def pump (s : Splice) : Splice :=
  if s.status ≠ .running then s
  else
    match s.forth.run s.a s.b with
    | none => s.close .failed
    | some (forth, a, b) =>
      let s := { s with forth, a, b }
      match s.back.run s.b s.a with
      | none => s.close .failed
      | some (back, b, a) =>
        let s := { s with back, a, b }
        if s.forth.done && s.back.done then s.close .complete else s

/-- One of the two parties. -/
inductive Side where
  | a
  | b
deriving DecidableEq, Repr

/-- The party on a side. -/
def party (s : Splice) : Side → Peer
  | .a => s.a
  | .b => s.b

/-- Change the party on a side. -/
def modify (s : Splice) (side : Side) (change : Peer → Peer) : Splice :=
  match side with
  | .a => { s with a := change s.a }
  | .b => { s with b := change s.b }

/-- A party does something and the splice goes on; `none` if the party has
vanished. -/
def act? (s : Splice) (side : Side) (change : Peer → Peer) : Option Splice :=
  if (s.party side).gone then none else some (s.modify side change).pump

/-- A party sends, and is told whether that was possible; `none` if the party has
vanished. -/
def send? (s : Splice) (side : Side) (data : ByteArray) : Option (Bool × Splice) :=
  if (s.party side).gone then none
  else if (s.party side).canSend then some (true, (s.modify side fun p => p.send data).pump)
  else some (false, s)

/-- What has reached the party on a side since the last look, and whether it has
come to the end; a party that has vanished sees nothing. -/
def seen (s : Splice) (side : Side) : Nat × Bool :=
  let p := s.party side
  if p.gone then (0, false) else (p.received.size, p.ended)

/-- Both parties look. -/
def look (s : Splice) : Splice := { s with a := s.a.look, b := s.b.look }

end Splice

end StreamBalancer
