/-!
# StreamBalancer.Toml.Value

Values of a TOML 1.0 document, and the tables that a document builds up.

A table remembers how it came into being, because that decides what may still be
added to it:

* *written* — by a header of its own; another header for it is an error, and so
  are dotted keys into it from outside;
* *implied* — as the parent of a header; a header of its own may still follow;
* *dotted* — by dotted keys; only more dotted keys may add to it;
* *closed* — as an inline table; nothing may be added.

An array made of `[[…]]` headers grows by such headers; one written as a value
does not.  Floats and date-times carry no payload: no setting takes either, so
all that counts is that the value is of that kind.
-/

namespace StreamBalancer.Toml

/-- How a table came into being. -/
inductive TableKind where
  | written
  | implied
  | dotted
  | closed
deriving DecidableEq, Repr, Inhabited

/-- A TOML value. -/
inductive Value where
  | string (text : String)
  | integer (number : Int)
  | float
  | boolean (value : Bool)
  | datetime
  /-- An array; `growing` for one made of headers. -/
  | array (growing : Bool) (items : List Value)
  | table (kind : TableKind) (entries : List (String × Value))
deriving Repr, Inhabited

/-- The entries of a table, in the order written. -/
abbrev Entries := List (String × Value)

namespace Entries

/-- Replace the value of a key that is there. -/
def replace (key : String) (value : Value) (es : Entries) : Entries :=
  es.map fun e => if e.1 = key then (key, value) else e

/-- Add a key that is not there. -/
def add (key : String) (value : Value) (es : Entries) : Entries := es ++ [(key, value)]

/-- Change the table that a path leads to; tables missing on the way are created.
`dotted` says that the path is part of a dotted key and not of a header.  The
path goes through the last entry of a growing array.  `change` is told whether
the table is a dotted one. -/
def alter (dotted : Bool) (change : (isDotted : Bool) → Entries → Option Entries) :
    (path : List String) → (isDotted : Bool) → Entries → Option Entries
  | [], isDotted, es => change isDotted es
  | key :: path, _, es =>
    match es.lookup key with
    | none =>
      (alter dotted change path dotted []).map fun new =>
        es.add key (.table (if dotted then .dotted else .implied) new)
    | some (.table kind sub) =>
      if kind = .closed ∨ (dotted ∧ kind = .written) then none
      else
        (alter dotted change path (kind = .dotted) sub).map fun new =>
          es.replace key (.table kind new)
    | some (.array true items) =>
      match items.getLast? with
      | some (.table kind sub) =>
        if dotted then none
        else
          (alter dotted change path false sub).map fun new =>
            es.replace key (.array true (items.dropLast ++ [.table kind new]))
      | _ => none
    | some _ => none

/-- Set a key under a path of dotted keys.  The key must be new, and a table may
not mix dotted keys with keys of its own. -/
def assign (path : List String) (key : String) (value : Value) (es : Entries) : Option Entries :=
  alter true
    (fun isDotted sub =>
      if isDotted = path.isEmpty then none
      else if (sub.lookup key).isSome then none
      else some (sub.add key value))
    path false es

/-- Open the table of a header. -/
def openTable (parents : List String) (key : String) (es : Entries) : Option Entries :=
  alter false
    (fun _ sub =>
      match sub.lookup key with
      | none => some (sub.add key (.table .written []))
      | some (.table .implied entries) => some (sub.replace key (.table .written entries))
      | some _ => none)
    parents false es

/-- Open a new entry of the array of a doubled header. -/
def openItem (parents : List String) (key : String) (es : Entries) : Option Entries :=
  alter false
    (fun _ sub =>
      match sub.lookup key with
      | none => some (sub.add key (.array true [.table .written []]))
      | some (.array true items) =>
        some (sub.replace key (.array true (items ++ [.table .written []])))
      | some _ => none)
    parents false es

/-- Set a key inside the table of the latest header. -/
def assignUnder (header path : List String) (key : String) (value : Value) (es : Entries) :
    Option Entries :=
  alter false (fun _ sub => sub.assign path key value) header false es

end Entries

end StreamBalancer.Toml
