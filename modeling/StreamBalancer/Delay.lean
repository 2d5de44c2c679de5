/-!
# StreamBalancer.Delay

Delays between attempts, in milliseconds:

1. a delay of `c` gets a random addition below a tenth of `c`, or none when a
   tenth of `c` rounds down to zero;
2. the base of a retry delay is the configured interval in whole milliseconds;
3. the base of a backoff doubles with each attempt after the first and is
   capped; attempt zero does not wait.

Arithmetic on 64-bit words saturates.  A random draw is an argument, taken
modulo the width of its range, so that every function here is total.
-/

namespace StreamBalancer.Delay

/-- The largest 64-bit word, at which word arithmetic saturates. -/
def wordMax : Nat := UInt64.size - 1

/-- A jitter is a tenth of the delay at most. -/
def jitterDivisor : Nat := 10

/-- Number of values that the addition to a delay of `ms` can take. -/
def jitterWidth (ms : Nat) : Nat := max (ms / jitterDivisor) 1

/-- The addition to a delay of `ms` that `draw` selects. -/
def jitter (draw ms : Nat) : Nat := draw % jitterWidth ms

/-- A delay before its random addition, and the values the addition allows. -/
structure Range where
  /-- Shortest delay. -/
  min : Nat
  /-- Longest delay. -/
  max : Nat
deriving DecidableEq, Repr

/-- The delays around a base of `ms`. -/
def Range.around (ms : Nat) : Range := ⟨ms, ms + (jitterWidth ms - 1)⟩

/-- The delay before a retry, for an interval in whole milliseconds. -/
def retry (draw intervalMs : Nat) : Nat := intervalMs + jitter draw intervalMs

/-- The delays that `retry` gives over all draws. -/
def retryRange (intervalMs : Nat) : Range := .around intervalMs

/-- The whole milliseconds of an interval in nanoseconds, in a 64-bit word. -/
def wholeMs (nanos : Nat) : Nat := nanos / 1000000 % UInt64.size

/-- The delay before a retry, for an interval in nanoseconds. -/
def retryAfter (draw nanos : Nat) : Nat := retry draw (wholeMs nanos)

/-- The delays that `retryAfter` gives over all draws. -/
def retryAfterRange (nanos : Nat) : Range := retryRange (wholeMs nanos)

/-- Multiplication that stops at the largest word. -/
def satMul (a b : Nat) : Nat := Nat.min (a * b) wordMax

/-- The power `2 ^ n` that stops at the largest word. -/
def satPow (n : Nat) : Nat := if n < 64 then 1 <<< n else wordMax

/-- The base of the delay before attempt `attempt`, counted from one. -/
def backoffBase (attempt baseMs maxMs : Nat) : Nat :=
  if attempt = 0 then 0 else Nat.min (satMul baseMs (satPow (attempt - 1))) maxMs

/-- The delay before attempt `attempt`. -/
def backoff (draw attempt baseMs maxMs : Nat) : Nat :=
  let base := backoffBase attempt baseMs maxMs
  base + jitter draw base

/-- The delays that `backoff` gives over all draws. -/
def backoffRange (attempt baseMs maxMs : Nat) : Range :=
  .around (backoffBase attempt baseMs maxMs)

end StreamBalancer.Delay
