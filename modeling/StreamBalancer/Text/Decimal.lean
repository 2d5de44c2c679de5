/-!
# StreamBalancer.Text.Decimal

Decimal readers for unsigned numbers of a fixed width.  The accepted texts are

```
[+] digit digit*
```

with ASCII digits and nothing else: no blanks, no separators, no minus sign.
Leading zeros are fine, but the value has to fit.
-/

namespace StreamBalancer.Text

/-- The value of an ASCII digit. -/
def digit? (c : Char) : Option Nat :=
  if '0' ≤ c ∧ c ≤ '9' then some (c.toNat - '0'.toNat) else none

/-- The number that digits continue, `acc` being the number so far. -/
def digitsFrom? (acc : Nat) : List Char → Option Nat
  | [] => some acc
  | c :: cs => (digit? c).bind fun d => digitsFrom? (10 * acc + d) cs

/-- The number that one or more digits write. -/
def digits? : List Char → Option Nat
  | [] => none
  | c :: cs => digitsFrom? 0 (c :: cs)

/-- A number below `bound`, with an optional leading plus sign. -/
def readBelow? (bound : Nat) (cs : List Char) : Option Nat :=
  let unsigned := match cs with
    | '+' :: rest => rest
    | _ => cs
  (digits? unsigned).filter (· < bound)

/-- A port number. -/
def port? (s : String) : Option UInt16 :=
  (readBelow? UInt16.size s.toList).map Nat.toUInt16

end StreamBalancer.Text
