/-!
# StreamBalancer.Addresses

Sets of addresses, kept as lists in byte order without repetitions.  Byte order
of the UTF-8 forms is the order of code points, which is how strings compare.
-/

namespace StreamBalancer.Addresses

/-- Put an address at its place; one that is there already is not repeated. -/
def insert (a : String) : List String → List String
  | [] => [a]
  | b :: rest =>
    if a < b then a :: b :: rest
    else if a = b then b :: rest
    else b :: insert a rest

/-- The set of the addresses of a list. -/
def ofList : List String → List String
  | [] => []
  | a :: rest => insert a (ofList rest)

end StreamBalancer.Addresses
