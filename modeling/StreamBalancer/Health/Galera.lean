import StreamBalancer.Health.ProbeError
import StreamBalancer.Health.Snapshot
import StreamBalancer.Text.Blank
import StreamBalancer.Text.Decimal
import StreamBalancer.Text.Split

/-!
# StreamBalancer.Health.Galera

Members of a Galera cluster.  A node reports two status variables: whether it is
connected to the cluster, and the addresses of all members.

1. Of several rows for one variable the last counts.
2. Connected means the value `ON` in any mix of ASCII cases.
3. A member list is cut at commas; its entries are trimmed and blank ones dropped.
4. A node address is `host:port`, or a host alone with the standard port.
   Brackets around the host are taken off.

A discovery round asks the directors in turn.  The first one that is connected
and names members moves to the front, its members are asked, and the round ends.
-/

namespace StreamBalancer.Galera

/-- What a node reports about the cluster. -/
structure NodeStatus where
  /-- Whether the node is connected to the cluster. -/
  connected : Bool := false
  /-- The members it knows. -/
  incoming : List String := []
deriving DecidableEq, Repr, Inhabited

/-- The variable that tells whether a node is connected. -/
def connectedVariable : String := "wsrep_connected"

/-- The variable that lists the members. -/
def incomingVariable : String := "wsrep_incoming_addresses"

/-- The standard port of a node. -/
def defaultPort : UInt16 := 3306

/-- The addresses of a member list. -/
def memberList (value : String) : List String :=
  (((Text.fields ',' value.toList).map Text.trim).filter (· ≠ [])).map String.ofList

/-- Whether a value says that the node is connected. -/
def saysOn (value : String) : Bool := value.toList.map Char.toUpper == ['O', 'N']

/-- The effect of one row. -/
def NodeStatus.withRow (status : NodeStatus) (row : String × String) : NodeStatus :=
  if row.1 = connectedVariable then { status with connected := saysOn row.2 }
  else if row.1 = incomingVariable then { status with incoming := memberList row.2 }
  else status

/-- The status that rows of variables and values describe. -/
def NodeStatus.ofRows (rows : List (String × String)) : NodeStatus :=
  rows.foldl NodeStatus.withRow {}

/-- A host without its brackets. -/
def unbracket (host : List Char) : List Char :=
  ((host.dropWhile (· == '[')).reverse.dropWhile (· == ']')).reverse

/-- Host and port of a node address. -/
def hostPort (address : String) : Except ProbeError (String × UInt16) :=
  match Text.cutAtLast ':' address.toList with
  | none => .ok (address, defaultPort)
  | some (host, port) =>
    match Text.port? (String.ofList port) with
    | none => .error (.invalidAddress address)
    | some port =>
      match unbracket host with
      | [] => .error (.invalidAddress address)
      | host => .ok (String.ofList host, port)

/-! ## Discovery -/

/-- One question of a round: to the director at a position of the list, or to
the member at a position of the answering director's list. -/
inductive Query where
  | director (index : Nat) (address : String)
  | member (index : Nat) (address : String)
deriving DecidableEq, Repr

/-- The address a question goes to. -/
def Query.address : Query → String
  | director _ address => address
  | member _ address => address

/-- How each question of a round is answered. -/
abbrev Answers := Query → Except ProbeError NodeStatus

/-- Whether an answer says that the node is a healthy member. -/
def verdict (answer : Except ProbeError NodeStatus) : Health := .ofBool answer.isOk

/-- The outcome of a round. -/
structure Discovery where
  /-- The questions, in the order asked. -/
  asked : List Query := []
  /-- One verdict per question. -/
  results : List (String × Health) := []
  /-- The list of directors for the next round. -/
  directors : List String
deriving DecidableEq, Repr

/-- Exchange the first entry with the one at `index`. -/
def promote (index : Nat) (directors : List String) : List String :=
  match directors[0]?, directors[index]? with
  | some first, some chosen => (directors.set index first).set 0 chosen
  | _, _ => directors

/-- The questions to the members that a director names, itself left out. -/
def memberQueries (director : String) (incoming : List String) : List Query :=
  ((incoming.filter (· ≠ director)).zipIdx).map fun (address, index) => .member index address

/-- Ask the directors of `rest`, the first of which has position `index`. -/
def askDirectors (answers : Answers) (directors : List String) (index : Nat) :
    (rest : List String) → Discovery
  | [] => { directors }
  | director :: rest =>
    let query := Query.director index director
    match answers query with
    | .ok ⟨_, incoming@(_ :: _)⟩ =>
      let members := memberQueries director incoming
      { asked := query :: members
        results := (director, .up) :: members.map fun q => (q.address, verdict (answers q))
        directors := promote index directors }
    | answer =>
      let later := askDirectors answers directors (index + 1) rest
      { later with
        asked := query :: later.asked
        results := (director, verdict answer) :: later.results }

/-- One round over a list of directors. -/
def discover (answers : Answers) (directors : List String) : Discovery :=
  askDirectors answers directors 0 directors

end StreamBalancer.Galera
