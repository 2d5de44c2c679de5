import StreamBalancer.Text.Split

/-!
# StreamBalancer.Listen

Endpoints of the form `scheme://address`, on which clients are accepted and at
which a tunnel agent reaches its service.

1. A specification is cut at its first `://`.
2. The scheme is exactly `tcp` or `unix`; an unknown scheme is reported before
   an empty address is.
3. The address is not empty.
4. For `unix` the addresses `default`, `/` and `/default` name the default
   socket; every other address is taken as it is.

`ListenAddress.text` writes an endpoint back as a specification.
-/

namespace StreamBalancer

/-- Where clients connect: a TCP `host:port` or the path of a unix socket. -/
inductive ListenAddress where
  | tcp (address : String)
  | unix (path : String)
deriving DecidableEq, Repr, Inhabited

/-- Why a listen specification is not an endpoint. -/
inductive ListenError where
  /-- No `://` in the specification. -/
  | malformed (spec : String)
  /-- A scheme other than `tcp` and `unix`. -/
  | unknownScheme (scheme spec : String)
  /-- Nothing after `://`. -/
  | emptyAddress (spec : String)
deriving DecidableEq, Repr

/-- The text of an error, as shown to the user. -/
def ListenError.message : ListenError → String
  | .malformed spec => "incorrect listen addr " ++ spec ++ ": expected scheme://address"
  | .unknownScheme scheme spec => "unsupported scheme " ++ scheme ++ " in " ++ spec
  | .emptyAddress spec => "empty address in " ++ spec

namespace ListenAddress

/-- The socket that the default names stand for. -/
def defaultSocket : String := "/var/lib/mysql/mysql.sock"

/-- The scheme name, as written in a specification. -/
def scheme : ListenAddress → String
  | tcp _ => "tcp"
  | unix _ => "unix"

/-- The part after `://`. -/
def address : ListenAddress → String
  | tcp address => address
  | unix path => path

/-- The specification of an endpoint. -/
def text (a : ListenAddress) : String := a.scheme ++ "://" ++ a.address

/-- The socket path that an address under `unix` names. -/
def socketPath (address : String) : String :=
  if address = "default" ∨ address = "/" ∨ address = "/default" then defaultSocket else address

/-- Read a specification. -/
def parse (spec : String) : Except ListenError ListenAddress :=
  match Text.cutAtFirst [':', '/', '/'] spec.toList with
  | none => .error (.malformed spec)
  | some (scheme, address) =>
    let scheme := String.ofList scheme
    let address := String.ofList address
    if scheme = "tcp" then
      if address = "" then .error (.emptyAddress spec) else .ok (tcp address)
    else if scheme = "unix" then
      if address = "" then .error (.emptyAddress spec) else .ok (unix (socketPath address))
    else .error (.unknownScheme scheme spec)

end ListenAddress

end StreamBalancer
