import StreamBalancer.Net.HttpStatus
import StreamBalancer.Text.Duration

/-!
# StreamBalancer.Tunnel.Error

Why a tunnel could not be dialed or gave no stream, and why a forward ended
without completing.

A refusal or a request that cannot be written says nothing about the tunnel it
came from: the agent is alive.  Every other error breaks the session, so the
tunnel has to be thrown away.
-/

namespace StreamBalancer

/-- Why a tunnel operation failed. -/
inductive TunnelError where
  /-- The agent could not be reached. -/
  | dial (cause : String)
  /-- The agent was reached, but the connection could not be set up. -/
  | handshake (cause : String)
  /-- The agent did not answer within so many milliseconds. -/
  | timeout (ms : Nat)
  /-- The connection has no stream id left. -/
  | streamsExhausted
  /-- The connection broke before the agent granted the stream. -/
  | stream (cause : String)
  /-- The agent could not open its service. -/
  | refused (status : HttpStatus)
  /-- The request for a stream could not be written. -/
  | request (cause : String)
  /-- The tunnel is closed. -/
  | closed
deriving DecidableEq, Repr

namespace TunnelError

/-- The text of an error. -/
def message : TunnelError → String
  | dial cause => "failed to dial agent: " ++ cause
  | handshake cause => "tunnel handshake failed: " ++ cause
  | timeout ms => "dial to agent timed out after " ++ Text.durationText ms
  | streamsExhausted => "stream ids used up"
  | stream cause => "failed to create stream: " ++ cause
  | refused status => "agent refused stream with status " ++ status.text
  | request cause => "invalid tunnel request: " ++ cause
  | closed => "tunnel closed"

/-- Whether the tunnel the error came from must be thrown away. -/
def breaksSession : TunnelError → Bool
  | refused _ | request _ => false
  | _ => true

end TunnelError

/-- Why a forward ended without completing. -/
inductive ForwardError where
  /-- No route could be opened; the client was not touched. -/
  | dial (address cause : String)
  /-- The streams broke after the route was open. -/
  | broken (cause : String)
deriving DecidableEq, Repr

namespace ForwardError

/-- The text of an error. -/
def message : ForwardError → String
  | dial address cause => "failed to dial backend " ++ address ++ ": " ++ cause
  | broken cause => "forwarding failed: " ++ cause

/-- Whether the request can go to another backend. -/
def isDial : ForwardError → Bool
  | dial _ _ => true
  | broken _ => false

end ForwardError

end StreamBalancer
