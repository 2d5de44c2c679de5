import StreamBalancer.Config.Decode
import StreamBalancer.Config.Rules
import StreamBalancer.Toml.Document

/-!
# StreamBalancer.Config.Load

From the content of a file to a configuration that can be used.  The bytes have
to be UTF-8, the text a TOML document that describes a configuration, and the
configuration has to satisfy the rules.
-/

namespace StreamBalancer

/-- Why a file gives no configuration. -/
inductive ConfigError where
  /-- There is no file. -/
  | missing
  /-- The bytes are not text. -/
  | notText
  /-- The text does not describe a configuration. -/
  | notConfig
  /-- The configuration breaks rules. -/
  | invalid (violations : List Violation)
deriving DecidableEq, Repr

/-- The text of an error, where it is fixed. -/
def ConfigError.message? : ConfigError → Option String
  | missing => some "IO error: No such file or directory (os error 2)"
  | notText => some "IO error: stream did not contain valid UTF-8"
  | notConfig => none
  | invalid violations =>
    some ("Validation failed: " ++ ", ".intercalate (violations.map Violation.text))

namespace Config

/-- The configuration that a text describes, whether it satisfies the rules or
not. -/
def ofText? (text : String) : Option Config := (Toml.read? text).bind ofEntries?

/-- The usable configuration that a text describes. -/
def loadText (text : String) : Except ConfigError Config :=
  match ofText? text with
  | none => .error .notConfig
  | some c => if c.violations = [] then .ok c else .error (.invalid c.violations)

/-- The usable configuration in a file, given its bytes. -/
def load : (content : Option ByteArray) → Except ConfigError Config
  | none => .error .missing
  | some bytes =>
    match String.fromUTF8? bytes with
    | none => .error .notText
    | some text => loadText text

end Config

end StreamBalancer
