import StreamBalancer.Text.Split

/-!
# StreamBalancer.Tunnel.Address

The agent that serves a backend's tunnels runs on the backend's host: its
address is the backend's up to the last colon, with the agent port instead.
-/

namespace StreamBalancer

/-- The host part of an address: all before the last colon, or all of it. -/
def hostOf (address : String) : String :=
  match Text.cutAtLast ':' address.toList with
  | some (host, _) => String.ofList host
  | none => address

/-- The address of the agent next to a backend. -/
def agentAddress (backend port : String) : String := hostOf backend ++ ":" ++ port

end StreamBalancer
