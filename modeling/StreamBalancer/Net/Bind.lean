import StreamBalancer.Listen
import StreamBalancer.Net.SocketAddress

/-!
# StreamBalancer.Net.Bind

Binding endpoints and releasing them.

1. How an endpoint comes to be bound is up to the system: a host name may be looked up, a port may
   be chosen, and it may fail for any reason.  A socket file is made where it is named
   (`ListenAddress.BoundAs`).
2. What a system has to keep to is that it binds nothing where somebody is (`Bound.Binds`).
3. A `Binding` is a system that does.  In a small one an address is taken as it is named, and
   socket files lie in one folder (`Binding.inFolder`).
-/

namespace StreamBalancer

/-- What is bound. -/
structure Bound where
  /-- The TCP addresses in use. -/
  addresses : List String := []
  /-- The files that exist where socket files are made. -/
  files : List String := []
deriving DecidableEq, Repr, Inhabited

/-- Why a listener was not bound. -/
structure BindError where
  /-- The endpoint. -/
  address : ListenAddress
  /-- What the system says. -/
  cause : String
deriving DecidableEq, Repr

/-- The text of an error. -/
def BindError.message (e : BindError) : String := "Failed to bind " ++ e.address.text ++ ": " ++ e.cause

/-- How an endpoint may be bound. -/
inductive ListenAddress.BoundAs : ListenAddress → ListenAddress → Prop where
  /-- At any address, which the name and the port lead to. -/
  | tcp (named address : String) : BoundAs (.tcp named) (.tcp address)
  /-- At its path. -/
  | unix (path : String) : BoundAs (.unix path) (.unix path)

namespace Bound

/-- An endpoint is bound where nobody is. -/
inductive Binds (b : Bound) : ListenAddress → Bound → Prop where
  | tcp {address : String} (h : address ∉ b.addresses) :
      Binds b (.tcp address) { b with addresses := b.addresses ++ [address] }
  | unix {path : String} (h : path ∉ b.files) :
      Binds b (.unix path) { b with files := b.files ++ [path] }

/-- Somebody else is there. -/
def inUse : String := "Address already in use (os error 98)"

/-- Bind an endpoint as it is named. -/
def occupy (b : Bound) : ListenAddress → Except String (ListenAddress × Bound)
  | .tcp address =>
    if address ∈ b.addresses then .error inUse
    else .ok (.tcp address, { b with addresses := b.addresses ++ [address] })
  | .unix path =>
    if path ∈ b.files then .error inUse
    else .ok (.unix path, { b with files := b.files ++ [path] })

theorem binds_of_occupy {b b' : Bound} {a e : ListenAddress} (h : b.occupy a = .ok (e, b')) :
    e = a ∧ b.Binds e b' := by
  cases a with
  | tcp address | unix path =>
      unfold occupy at h
      dsimp only at h
      split at h
      · contradiction
      · next hfree =>
        obtain ⟨rfl, rfl⟩ := Prod.mk.inj (Except.ok.inj h)
        exact ⟨rfl, by constructor; exact hfree⟩

/-- Release an endpoint as bound; a socket file is removed. -/
def release (b : Bound) : ListenAddress → Bound
  | .tcp address => { b with addresses := b.addresses.erase address }
  | .unix path => { b with files := b.files.erase path }

/-- Whether a file exists. -/
def hasFile (b : Bound) (path : String) : Bool := b.files.contains path

end Bound

/-- How a system binds endpoints. -/
structure Binding where
  /-- Bind an endpoint.  The result is the endpoint as bound and all that is bound then, or what the
  system says. -/
  bind : Bound → ListenAddress → Except String (ListenAddress × Bound)
  /-- It is bound as it may be, and nobody was there. -/
  binds : ∀ {b : Bound} {a e : ListenAddress} {b' : Bound}, bind b a = .ok (e, b') →
    a.BoundAs e ∧ b.Binds e b'

namespace Binding

/-- The folder is missing. -/
def noFolder : String := "No such file or directory (os error 2)"

/-- A socket path is shorter than this. -/
def maxPathLength : Nat := 108

/-- The folder of a path. -/
def folderOf (path : String) : Option String :=
  (Text.cutAtLast '/' path.toList).map fun (folder, _) => String.ofList folder

/-- Bind an endpoint in a small system.  A TCP endpoint needs a host, a port and nobody else at the
address.  A socket file needs a path that is short enough, does not exist, and lies in the folder. -/
def bindIn (folder : String) (b : Bound) :
    ListenAddress → Except String (ListenAddress × Bound)
  | .tcp named =>
    match hostAndPort named with
    | .error fault => .error fault.message
    | .ok (host, port) => b.occupy (.tcp (joinAddress host port))
  | .unix path =>
    if maxPathLength ≤ path.utf8ByteSize then .error "path must be shorter than SUN_LEN"
    else if path = folder ∨ path = folder ++ "/" then .error Bound.inUse
    else if folderOf path ≠ some folder then .error noFolder
    else b.occupy (.unix path)

theorem binds_of_bindIn {folder : String} {b b' : Bound} {a e : ListenAddress}
    (h : bindIn folder b a = .ok (e, b')) : a.BoundAs e ∧ b.Binds e b' := by
  cases a with
  | tcp named =>
      unfold bindIn at h
      dsimp only at h
      split at h
      · contradiction
      · obtain ⟨rfl, hbinds⟩ := Bound.binds_of_occupy h
        exact ⟨.tcp _ _, hbinds⟩
  | unix path =>
      unfold bindIn at h
      dsimp only at h
      split at h
      · contradiction
      · split at h
        · contradiction
        · split at h
          · contradiction
          · obtain ⟨rfl, hbinds⟩ := Bound.binds_of_occupy h
            exact ⟨.unix _, hbinds⟩

/-- A small system in which addresses are taken as they are named, and socket files lie in one
folder. -/
def inFolder (folder : String) : Binding where
  bind := bindIn folder
  binds := binds_of_bindIn

end Binding

end StreamBalancer
