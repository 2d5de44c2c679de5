import StreamBalancer.Net.HttpStatus
import StreamBalancer.Text.Duration

/-!
# StreamBalancer.Health.ProbeError

Why a probe found its address unhealthy.  The texts of three of the causes
belong to the protocol that failed and are not fixed here.
-/

namespace StreamBalancer

/-- A failed probe. -/
inductive ProbeError where
  /-- No connection. -/
  | connect (cause : String)
  /-- No verdict within so many milliseconds. -/
  | timeout (ms : Nat)
  /-- No HTTP answer. -/
  | http
  /-- The request could not be written. -/
  | request
  /-- An HTTP answer that is not a success. -/
  | status (code : HttpStatus)
  /-- The command could not be started. -/
  | spawn (command cause : String)
  /-- The command ended with this code, which is not zero. -/
  | exit (code : Nat)
  /-- No command is configured. -/
  | missingCommand
  /-- No database answer. -/
  | mysql
  /-- The node answers, but is outside the cluster. -/
  | notConnected
  /-- The text does not name a node. -/
  | invalidAddress (address : String)
deriving DecidableEq, Repr

namespace ProbeError

/-- The text of an error, where it is fixed. -/
def message? : ProbeError → Option String
  | connect cause => some ("connect failed: " ++ cause)
  | timeout ms => some ("probe timed out after " ++ Text.durationText ms)
  | http | request | mysql => none
  | status code => some ("unhealthy status " ++ code.text)
  | spawn command cause => some ("failed to run " ++ command ++ ": " ++ cause)
  | exit n => some ("command exited with exit status: " ++ toString n)
  | missingCommand => some "ext health check needs ext_command"
  | notConnected => some "galera node not connected to the cluster"
  | invalidAddress address => some ("invalid node address " ++ address)

end ProbeError

end StreamBalancer
