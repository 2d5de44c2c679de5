/-!
# StreamBalancer.Text.Duration

Durations as messages show them, in the largest unit that fits:

1. nothing is `0ns`;
2. below one second, whole milliseconds: `200ms`;
3. from one second on, seconds with at most three decimals and no trailing zero:
   `60s`, `1.5s`, `90.061s`.
-/

namespace StreamBalancer.Text

/-- A fraction of a second, given in milliseconds, as decimals after the point. -/
def milliDecimals (ms : Nat) : List Char :=
  let three := [ms / 100 % 10, ms / 10 % 10, ms % 10].map Nat.digitChar
  (three.reverse.dropWhile (· == '0')).reverse

/-- The text of a duration of `ms` milliseconds. -/
def durationText (ms : Nat) : String :=
  if ms = 0 then "0ns"
  else if ms < 1000 then toString ms ++ "ms"
  else
    match milliDecimals (ms % 1000) with
    | [] => toString (ms / 1000) ++ "s"
    | decimals => toString (ms / 1000) ++ "." ++ String.ofList decimals ++ "s"

end StreamBalancer.Text
