import StreamBalancer.Config
import StreamBalancer.Health.Galera
import StreamBalancer.Net.HttpStatus
import StreamBalancer.Net.HttpTarget

/-!
# StreamBalancer.Health.Probe

The four kinds of probes.

* *tcp*: the address accepts a connection;
* *http*: a request to the address is answered with a success;
* *ext*: a command that gets the address exits with zero;
* *galera*: the node at the address is connected to its cluster.

A probe that gets no answer within its time has failed.  What there is to answer,
and how, is not known here (`Surroundings`).
-/

namespace StreamBalancer

/-- A probe. -/
inductive Probe where
  | tcp
  | http (path : String)
  | ext (command : String)
  | galera (user password : String)
deriving DecidableEq, Repr, Inhabited

/-- What comes of an attempt, before its time limit is looked at. -/
inductive Attempt (α : Type) where
  /-- A result without any exchange. -/
  | immediate (result : α)
  /-- A result after an exchange that takes so many milliseconds. -/
  | after (ms : Nat) (result : α)
  /-- Nothing, ever. -/
  | never
deriving Repr

/-- The result within a time limit. -/
def Attempt.within {α : Type} (limit : Nat) : Attempt α → Option α
  | immediate result => some result
  | after ms result => if ms < limit then some result else none
  | never => none

/-- Change the result. -/
def Attempt.map {α β : Type} (f : α → β) : Attempt α → Attempt β
  | immediate result => .immediate (f result)
  | after ms result => .after ms (f result)
  | never => .never

instance {α : Type} : Inhabited (Attempt α) := ⟨.never⟩

/-- What probes meet with. -/
structure Surroundings where
  /-- What comes of a connection to an address: it stands, or why it does not. -/
  connect : String → Attempt (Except String Unit)
  /-- What comes of a request: the status of the answer, `none` if there is no answer. -/
  get : HttpTarget → Attempt (Option HttpStatus)
  /-- What comes of a command with an argument: its exit code, or why it was not started. -/
  run : String → String → Attempt (Except String Nat)
  /-- What a node at a host and a port tells a user with a password about its cluster, as rows;
  `none` if the query fails. -/
  rows : String → UInt16 → String → String → Attempt (Option (List (String × String)))
deriving Inhabited

namespace Probe

/-- The probe of a configuration. -/
def ofConfig (h : HealthCheckConfig) : Except ProbeError Probe :=
  match h.service with
  | .tcp => .ok .tcp
  | .http => .ok (.http h.httpPath)
  | .ext =>
    match h.extCommand.filter (· ≠ "") with
    | some command => .ok (.ext command)
    | none => .error .missingCommand
  | .galera => .ok (.galera h.user h.pass)

/-- The kind of a probe. -/
def service : Probe → ProbeService
  | tcp => .tcp
  | http _ => .http
  | ext _ => .ext
  | galera _ _ => .galera

/-- What comes of a connection. -/
def ofConnection : Except String Unit → Except ProbeError Galera.NodeStatus
  | .ok () => .ok {}
  | .error cause => .error (.connect cause)

/-- What comes of an answer to a request. -/
def ofResponse : Option HttpStatus → Except ProbeError Galera.NodeStatus
  | some status => if status.isSuccess then .ok {} else .error (.status status)
  | none => .error .http

/-- What comes of a command. -/
def ofExit (command : String) : Except String Nat → Except ProbeError Galera.NodeStatus
  | .ok 0 => .ok {}
  | .ok code => .error (.exit code)
  | .error cause => .error (.spawn command cause)

/-- What comes of a query: the status of a node that is connected to its cluster. -/
def ofRows : Option (List (String × String)) → Except ProbeError Galera.NodeStatus
  | some rows =>
    let status := Galera.NodeStatus.ofRows rows
    if status.connected then .ok status else .error .notConnected
  | none => .error .mysql

/-- The attempt of a probe at an address.  A probe that is no cluster probe learns
nothing of members. -/
def attempt (outside : Surroundings) (address : String) :
    Probe → Attempt (Except ProbeError Galera.NodeStatus)
  | tcp => (outside.connect address).map ofConnection
  | http path =>
    match HttpTarget.ofText? address path with
    | none => .immediate (.error .request)
    | some target => (outside.get target).map ofResponse
  | ext command => (outside.run command address).map (ofExit command)
  | galera user password =>
    match Galera.hostPort address with
    | .error e => .immediate (.error e)
    | .ok (host, port) => (outside.rows host port user password).map ofRows

/-- The result of a probe within a time limit in milliseconds. -/
def check (p : Probe) (outside : Surroundings) (limit : Nat) (address : String) :
    Except ProbeError Galera.NodeStatus :=
  ((p.attempt outside address).within limit).getD (.error (.timeout limit))

end Probe

end StreamBalancer
