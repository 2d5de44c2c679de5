import StreamBalancer.Scheduler.Stats

/-!
# StreamBalancer.Admin

The administrative interface: two read-only views of the scheduler.

1. A request needs the key, whatever it asks for.  An empty configured key lets
   nobody in.
2. Then the path has to be known, and the method has to be `GET` or `HEAD`.
3. A scheduler that is gone cannot answer.
4. `HEAD` is answered like `GET` without a body.
-/

namespace StreamBalancer.Admin

/-- A request to the interface. -/
structure Request where
  /-- The method. -/
  method : String := "GET"
  /-- The path, perhaps with a query. -/
  path : String
  /-- The credentials. -/
  authorization : Option String := none
deriving DecidableEq, Repr

/-- The view of the whole. -/
structure Overview where
  /-- The version of the balancer. -/
  version : String
  /-- Whether some backend takes requests. -/
  operational : Bool
  /-- Instances in the pool. -/
  poolSize : Nat
  /-- Requests that wait. -/
  pending : Nat
  /-- Backends known. -/
  backends : Nat
  /-- Forwards in flight. -/
  forwards : Nat
deriving DecidableEq, Repr

/-- The body of an answer. -/
inductive Body where
  | empty
  | overview (view : Overview)
  | backends (views : List BackendStats)
deriving DecidableEq, Repr

/-- An answer. -/
structure Response where
  /-- The status code. -/
  status : Nat
  /-- The body. -/
  body : Body := .empty
deriving DecidableEq, Repr

/-- What can be asked for. -/
inductive View where
  | overview
  | backends
deriving DecidableEq, Repr

/-- The version of the balancer. -/
def version : String := "0.1.0"

/-- The word for whether some backend takes requests. -/
def Overview.status (o : Overview) : String := if o.operational then "operational" else "degraded"

/-- Whether a character may stand in credentials. -/
def isVisible (c : Char) : Bool := (' ' ≤ c && c ≤ '~') || c == '\t'

/-- Whether credentials show the key. -/
def admits (key : String) (authorization : Option String) : Bool :=
  match authorization with
  | some credentials =>
    key ≠ "" && credentials.toList.all isVisible && credentials == "Bearer " ++ key
  | none => false

/-- The view at a path. -/
def view? (path : String) : Option View :=
  let path := String.ofList (path.toList.takeWhile (· ≠ '?'))
  if path = "/admin/status" then some .overview
  else if path = "/admin/backends" then some .backends
  else none

/-- The view of the whole. -/
def overview (s : Stats) : Overview :=
  { version
    operational := 0 < s.poolSize
    poolSize := s.poolSize
    pending := s.pending
    backends := s.backends.length
    forwards := s.forwards }

/-- A view of the scheduler. -/
def View.body (s : Stats) : View → Body
  | .overview => .overview (Admin.overview s)
  | .backends => .backends s.backends

/-- Answer a request, given the key and what the scheduler shows. -/
def respond (key : String) (stats : Option Stats) (r : Request) : Response :=
  if !admits key r.authorization then ⟨401, .empty⟩
  else
    match view? r.path with
    | none => ⟨404, .empty⟩
    | some view =>
      if r.method ≠ "GET" ∧ r.method ≠ "HEAD" then ⟨405, .empty⟩
      else
        match stats with
        | none => ⟨503, .empty⟩
        | some s => ⟨200, if r.method = "HEAD" then .empty else view.body s⟩

end StreamBalancer.Admin
