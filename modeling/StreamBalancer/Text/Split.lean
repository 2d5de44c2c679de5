/-!
# StreamBalancer.Text.Split

Cutting text at a separator.  A cut takes the separator out and gives the text
on both sides of it; `none` says that the separator does not occur.

* `cutAtFirst` — at the first occurrence of a separator of any length;
* `cutAtLast` — at the last occurrence of one character;
* `fields` — at every occurrence of one character.
-/

namespace StreamBalancer.Text

/-- The rest of `cs` after `sep`, if `cs` starts with `sep`. -/
def dropLeading? : (sep cs : List Char) → Option (List Char)
  | [], cs => some cs
  | _ :: _, [] => none
  | s :: sep, c :: cs => if s = c then dropLeading? sep cs else none

/-- Cut at the first occurrence of `sep`. -/
def cutAtFirst (sep : List Char) : List Char → Option (List Char × List Char)
  | [] => (dropLeading? sep []).map ([], ·)
  | c :: cs =>
    match dropLeading? sep (c :: cs) with
    | some rest => some ([], rest)
    | none => (cutAtFirst sep cs).map fun (before, rest) => (c :: before, rest)

/-- Cut at the last `sep`. -/
def cutAtLast (sep : Char) : List Char → Option (List Char × List Char)
  | [] => none
  | c :: cs =>
    match cutAtLast sep cs with
    | some (before, rest) => some (c :: before, rest)
    | none => if c = sep then some ([], cs) else none

/-- The texts between the occurrences of `sep`, one more than there are of it. -/
def fields (sep : Char) : List Char → List (List Char)
  | [] => [[]]
  | c :: cs =>
    if c = sep then [] :: fields sep cs
    else
      match fields sep cs with
      | [] => [[c]]
      | field :: rest => (c :: field) :: rest

end StreamBalancer.Text
