import StreamBalancer.Text.Decimal
import StreamBalancer.Text.Split

/-!
# StreamBalancer.Net.NumericAddress

Addresses with a numeric host, which need no look-up:

```
numeric = ipv4 ":" port
        | "[" ipv6 [ "%" scope ] "]" ":" port
ipv4    = octet "." octet "." octet "." octet
ipv6    = eight groups
        | groups "::" groups       -- at most seven groups
```

1. An octet has no leading zeros.  A port and a scope may have them.
2. A group is one to four hexadecimal digits.
3. The last two groups may be written as an IPv4 host.
-/

namespace StreamBalancer.NumericAddress

/-- Whether digits write a number below `bound`. -/
def isBelow (bound : Nat) (cs : List Char) : Bool := ((Text.digits? cs).filter (· < bound)).isSome

/-- A byte in decimal. -/
def isOctet (cs : List Char) : Bool := isBelow 256 cs && (cs.length ≤ 1 || cs.head? ≠ some '0')

/-- An IPv4 host. -/
def isIPv4 (cs : List Char) : Bool :=
  let octets := Text.fields '.' cs
  octets.length = 4 && octets.all isOctet

/-- A hexadecimal digit. -/
def isHexDigit (c : Char) : Bool :=
  c.isDigit || ('a' ≤ c && c ≤ 'f') || ('A' ≤ c && c ≤ 'F')

/-- Two bytes in hexadecimal. -/
def isGroup (cs : List Char) : Bool := 0 < cs.length && cs.length ≤ 4 && cs.all isHexDigit

/-- Number of groups that texts write, `none` if they are no groups.  `mayEndInIPv4`
says whether the last text may be an IPv4 host. -/
def countGroups? (mayEndInIPv4 : Bool) : List (List Char) → Option Nat
  | [] => some 0
  | [last] =>
    if isGroup last then some 1
    else if mayEndInIPv4 && isIPv4 last then some 2
    else none
  | group :: rest =>
    if isGroup group then (countGroups? mayEndInIPv4 rest).map (· + 1) else none

/-- Number of groups in a text, in which nothing at all stands for none. -/
def groupCount? (mayEndInIPv4 : Bool) (cs : List Char) : Option Nat :=
  if cs.isEmpty then some 0 else countGroups? mayEndInIPv4 (Text.fields ':' cs)

/-- An IPv6 host. -/
def isIPv6 (cs : List Char) : Bool :=
  match Text.cutAtFirst [':', ':'] cs with
  | none => groupCount? true cs == some 8
  | some (front, back) =>
    match groupCount? false front, groupCount? true back with
    | some m, some n => m + n ≤ 7
    | _, _ => false

/-- An IPv6 host, perhaps with a scope. -/
def isScopedIPv6 (cs : List Char) : Bool :=
  match Text.cutAtFirst ['%'] cs with
  | none => isIPv6 cs
  | some (host, scope) => isIPv6 host && isBelow UInt32.size scope

/-- A host in an address: brackets mark IPv6. -/
def isHost : List Char → Bool
  | '[' :: rest => rest.getLast? == some ']' && isScopedIPv6 rest.dropLast
  | cs => isIPv4 cs

end NumericAddress

/-- Whether a text is the address of a numeric host. -/
def isNumericAddress (address : String) : Bool :=
  match Text.cutAtLast ':' address.toList with
  | some (host, port) => NumericAddress.isHost host && NumericAddress.isBelow UInt16.size port
  | none => false

end StreamBalancer
