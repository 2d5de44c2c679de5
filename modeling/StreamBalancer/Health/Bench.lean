import StreamBalancer.Health.Probe
import StreamBalancer.Net.SocketAddress
import StreamBalancer.Text.Decimal

/-!
# StreamBalancer.Health.Bench

Servers at addresses and a few commands, for probes worked by hand.

1. A server accepts and hangs up, or accepts and waits, or answers requests, or is a
   database node; some of these can also say nothing or hang up when they are asked.
2. The commands are those of a standard system that need nothing but their argument.
-/

namespace StreamBalancer

/-! ## Servers -/

/-- How a server treats a request. -/
inductive Manner where
  /-- It answers. -/
  | answers
  /-- It hangs up. -/
  | resets
  /-- It says nothing. -/
  | hangs
deriving DecidableEq, Repr, Inhabited

/-- A database node. -/
structure DatabaseNode where
  /-- The rows of its status. -/
  rows : List (String × String) := []
  /-- The only user it lets in, if there is one. -/
  user : Option String := none
  /-- How it treats those who connect. -/
  manner : Manner := .answers
  /-- Whether it refuses to tell its status. -/
  refusesQuery : Bool := false
deriving DecidableEq, Repr, Inhabited

/-- What a user who asks a node for its status gets. -/
def DatabaseNode.query (node : DatabaseNode) (user : String) :
    Attempt (Option (List (String × String))) :=
  match node.manner with
  | .hangs => .never
  | .resets => .after 0 none
  | .answers =>
    .after 0
      (if (node.user.filter (· ≠ user)).isSome || node.refusesQuery then none else some node.rows)

/-- What listens at an address. -/
inductive Server where
  /-- Accepts and hangs up. -/
  | closing
  /-- Accepts, sends a greeting and waits. -/
  | greeting
  /-- Answers requests with a status. -/
  | http (status : HttpStatus) (manner : Manner)
  /-- A database node. -/
  | database (node : DatabaseNode)
deriving DecidableEq, Repr, Inhabited

/-! ## Commands -/

namespace Command

/-- The number of milliseconds that a decimal number of seconds stands for. -/
def millis? (cs : List Char) : Option Nat :=
  let whole := cs.takeWhile Char.isDigit
  let fraction := cs.dropWhile Char.isDigit
  match fraction with
  | [] => (Text.digits? whole).map (1000 * ·)
  | '.' :: digits =>
    if digits.all Char.isDigit && !(whole ++ digits).isEmpty then
      let three := (digits ++ ['0', '0', '0']).take 3
      (Text.digits? (whole ++ three))
    else none
  | _ => none

/-- Whether an expression of one word counts as false: nothing, or zero. -/
def isNull (cs : List Char) : Bool :=
  let magnitude := match cs with
    | '-' :: rest => rest
    | _ => cs
  cs.isEmpty || (!magnitude.isEmpty && magnitude.all (· == '0'))

/-- The name of a command, without a standard folder. -/
def baseName (command : String) : String :=
  let cs := command.toList
  let stripped := (Text.dropLeading? "/usr/bin/".toList cs).or (Text.dropLeading? "/bin/".toList cs)
  String.ofList (stripped.getD cs)

/-- The exit code of a command with one argument, and the time it takes. -/
def run (command argument : String) : Attempt (Except String Nat) :=
  let exit (code : Nat) : Attempt (Except String Nat) := .after 0 (.ok code)
  match baseName command with
  | "true" | "echo" => exit 0
  | "false" => exit 1
  | "test" => exit (if argument = "" then 1 else 0)
  | "expr" => exit (if isNull argument.toList then 1 else 0)
  | "sleep" =>
    match millis? argument.toList with
    | some ms => .after ms (.ok 0)
    | none => exit 1
  | _ =>
    .immediate (.error
      (if command = "/" then "Permission denied (os error 13)"
        else "No such file or directory (os error 2)"))

end Command

/-! ## Both together -/

/-- The servers of a network, by address. -/
abbrev Servers := List (String × Server)

namespace Servers

/-- Put a server at an address, in place of the one before. -/
def put (servers : Servers) (address : String) (server : Server) : Servers :=
  servers.filter (fun e => e.1 ≠ address) ++ [(address, server)]

/-- Take the server at an address away. -/
def remove (servers : Servers) (address : String) : Servers :=
  servers.filter fun e => e.1 ≠ address

/-- What probes meet with. -/
def surroundings (servers : Servers) : Surroundings where
  connect address :=
    match hostAndPort address with
    | .error fault => .immediate (.error fault.message)
    | .ok _ =>
      match servers.lookup address with
      | some _ => .after 0 (.ok ())
      | none => .immediate (.error "Connection refused (os error 111)")
  get target :=
    match servers.lookup (joinAddress target.host target.port) with
    | none => .immediate none
    | some (.http status .answers) => .after 0 (some status)
    | some (.http _ .hangs) => .never
    | some (.database node) => if node.manner = .hangs then .never else .after 0 none
    | some _ => .after 0 none
  run := Command.run
  rows host port user _ :=
    match servers.lookup (joinAddress host port) with
    | none => .immediate none
    | some .closing => .after 0 none
    | some (.database node) => node.query user
    | some _ => .never

/-- The HTTP requests that servers get from a probe of an address. -/
def requests (servers : Servers) (address : String) : Probe → List String
  | .http path =>
    match HttpTarget.ofText? address path with
    | none => []
    | some target =>
      match servers.lookup (joinAddress target.host target.port) with
      | some (.http _ _) => [target.requestText]
      | _ => []
  | _ => []

end Servers

end StreamBalancer
