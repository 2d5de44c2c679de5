import StreamBalancer.Text.Decimal
import StreamBalancer.Text.Split

/-!
# StreamBalancer.Net.SocketAddress

Addresses of the form `host:port`, cut at the last colon.
-/

namespace StreamBalancer

/-- Why a text is no address. -/
inductive AddressFault where
  /-- It has no colon. -/
  | noPort
  /-- What follows the last colon is no port. -/
  | badPort
deriving DecidableEq, Repr

/-- The text of a fault. -/
def AddressFault.message : AddressFault → String
  | noPort => "invalid socket address"
  | badPort => "invalid port value"

/-- Host and port of an address. -/
def hostAndPort (address : String) : Except AddressFault (String × UInt16) :=
  match Text.cutAtLast ':' address.toList with
  | none => .error .noPort
  | some (host, port) =>
    match Text.port? (String.ofList port) with
    | none => .error .badPort
    | some port => .ok (String.ofList host, port)

/-- The address of a host and a port. -/
def joinAddress (host : String) (port : UInt16) : String := host ++ ":" ++ toString port.toNat

end StreamBalancer
