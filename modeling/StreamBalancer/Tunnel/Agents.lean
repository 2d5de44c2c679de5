import StreamBalancer.Net.SocketAddress
import StreamBalancer.Tunnel.Bench

/-!
# StreamBalancer.Tunnel.Agents

Agents and services with addresses, for tunnels worked by hand.

An agent that is stopped takes no more tunnels; those it has live on.
-/

namespace StreamBalancer

/-- Tunnels among agents and services. -/
structure Agents where
  /-- The tunnels and their streams. -/
  bench : TunnelBench := {}
  /-- The addresses of the services. -/
  services : List String := []
  /-- The addresses of the agents, with what they relay to. -/
  agents : List (String × ListenAddress) := []
deriving Inhabited

namespace Agents

/-- What tunnels meet with. -/
def network (s : Agents) : TunnelBench.Network where
  agent address :=
    match hostAndPort address with
    | .error fault => .error (.dial fault.message)
    | .ok _ =>
      match s.agents.lookup address with
      | none => .error (.dial "Connection refused (os error 111)")
      | some target => .ok target
  reaches := fun
    | .tcp address => s.services.contains address
    | .unix _ => false

/-- Whether an address is taken. -/
def isTaken (s : Agents) (address : String) : Bool :=
  s.services.contains address || (s.agents.lookup address).isSome

/-- Start a service; false if the address is taken. -/
def listen (s : Agents) (address : String) : Bool × Agents :=
  if s.isTaken address then (false, s) else (true, { s with services := s.services ++ [address] })

/-- Stop a service; false if there is none. -/
def unlisten (s : Agents) (address : String) : Bool × Agents :=
  (s.services.contains address, { s with services := s.services.filter (· ≠ address) })

/-- Run an agent at an address, in place of one that is there. -/
def runAgent (s : Agents) (address : String) (target : ListenAddress) : Agents :=
  { s with agents := s.agents.filter (fun e => e.1 ≠ address) ++ [(address, target)] }

/-- Stop an agent; false if there is none. -/
def stopAgent (s : Agents) (address : String) : Bool × Agents :=
  ((s.agents.lookup address).isSome, { s with agents := s.agents.filter fun e => e.1 ≠ address })

end Agents

end StreamBalancer
