import StreamBalancer.Text.Blank
import StreamBalancer.Text.Decimal

/-!
# StreamBalancer.Pidfile

A file that names the process in charge.

1. The file holds the number of the process and a line end.
2. Reading trims the text; what is not text or no 32-bit number names nobody.
3. A process does not take a file that names another live process.  Any other
   content is replaced, its own number included.
-/

namespace StreamBalancer.Pidfile

/-- Why a process does not get a file. -/
inductive Error where
  /-- The file names another live process. -/
  | alreadyRunning (pid : UInt32) (path : String)
  /-- The file cannot be written. -/
  | write (path : String)
deriving DecidableEq, Repr

/-- The text of an error. -/
def Error.message : Error → String
  | alreadyRunning pid path => "process " ++ toString pid.toNat ++ " from " ++ path ++ " is still running"
  | write path =>
    "failed to write pidfile " ++ path ++ ": No such file or directory (os error 2)"

/-- The content that names a process. -/
def written (pid : UInt32) : String := toString pid.toNat ++ "\n"

/-- The process that a content names. -/
def named? (content : ByteArray) : Option UInt32 :=
  (String.fromUTF8? content).bind fun text =>
    (Text.readBelow? UInt32.size (Text.trim text.toList)).map Nat.toUInt32

/-- Whether a content blocks a process, `isAlive` telling which processes live. -/
def blocker? (self : UInt32) (isAlive : UInt32 → Bool) (content : Option ByteArray) : Option UInt32 :=
  (content.bind named?).filter fun pid => pid ≠ self && isAlive pid

/-- Take the file at a path, given its present content.  The result is the new
content. -/
def take (self : UInt32) (isAlive : UInt32 → Bool) (path : String) (isWritable : Bool)
    (content : Option ByteArray) : Except Error ByteArray :=
  match blocker? self isAlive content with
  | some pid => .error (.alreadyRunning pid path)
  | none => if isWritable then .ok (written self).toUTF8 else .error (.write path)

/-- Let the file go, given its present content: whatever it holds, it is removed. -/
def letGo (_content : Option ByteArray) : Option ByteArray := none

end StreamBalancer.Pidfile
