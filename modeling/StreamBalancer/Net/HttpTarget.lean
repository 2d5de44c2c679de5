import StreamBalancer.Net.SocketAddress

/-!
# StreamBalancer.Net.HttpTarget

The target of an HTTP request to an address, with a path that was configured as
text and follows the address directly.

1. The authority ends at the first of `/`, `?` and `#`.  It may hold the
   characters of a host and one colon.
2. A fragment is cut off.  What is left may not hold blanks, control characters
   or the characters that have to be escaped.
3. A path that is empty, or missing before a query, is `/`.
4. Without a port that can be read, the standard port is dialed.  The host
   header leaves the standard port out.
-/

namespace StreamBalancer

/-- The target of a request. -/
structure HttpTarget where
  /-- The host to dial. -/
  host : String
  /-- The port to dial. -/
  port : UInt16
  /-- The host header. -/
  hostHeader : String
  /-- Path and query. -/
  path : String
deriving DecidableEq, Repr

namespace HttpTarget

/-- The standard port. -/
def defaultPort : UInt16 := 80

/-- Whether a character ends the authority. -/
def endsAuthority (c : Char) : Bool := c == '/' || c == '?' || c == '#'

/-- Whether a character may stand in an authority. -/
def isAuthorityChar (c : Char) : Bool :=
  c.isAlphanum || "!$&'()*+,-.:;=@[]_~".toList.contains c

/-- Whether a character may stand in a path. -/
def isPathChar (c : Char) : Bool :=
  '!' ≤ c && c ≠ '#' && c ≠ '<' && c ≠ '>' && c ≠ '?' && c ≠ '\x60'

/-- Whether a character may stand in a query. -/
def isQueryChar (c : Char) : Bool :=
  '!' ≤ c && c ≠ '"' && c ≠ '#' && c ≠ '<' && c ≠ '>'

/-- Path and query without the fragment, if they hold allowed characters only. -/
def pathAndQuery? (cs : List Char) : Option String :=
  let cs := cs.takeWhile (· ≠ '#')
  let path := cs.takeWhile (· ≠ '?')
  let query := (cs.dropWhile (· ≠ '?')).drop 1
  if path.all isPathChar && query.all isQueryChar then
    some (String.ofList (if path.isEmpty then '/' :: cs else cs))
  else none

/-- Whether an authority has a form that can be dialed. -/
def isAuthority (cs : List Char) : Bool :=
  !cs.isEmpty && cs.all isAuthorityChar && cs.count ':' ≤ 1 && cs.getLast? != some '@'

/-- The target at an address with a path. -/
def ofText? (address path : String) : Option HttpTarget :=
  let cs := address.toList ++ path.toList
  let authority := cs.takeWhile fun c => !endsAuthority c
  if !isAuthority authority then none
  else
    (pathAndQuery? (cs.dropWhile fun c => !endsAuthority c)).map fun path =>
      let text := String.ofList authority
      let host := match Text.cutAtLast ':' authority with
        | some (host, _) => String.ofList host
        | none => text
      match hostAndPort text with
      | .ok (_, port) =>
        { host, port, path, hostHeader := if port = defaultPort then host else text }
      | .error _ => { host, port := defaultPort, path, hostHeader := host }

/-- The program's name in its requests. -/
def userAgent : String := "tunnel-balancer-health-check"

/-- The request as its first line and its headers in order. -/
def requestText (t : HttpTarget) : String :=
  " | ".intercalate
    ["GET " ++ t.path ++ " HTTP/1.1", "host: " ++ t.hostHeader, "user-agent: " ++ userAgent]

end HttpTarget

end StreamBalancer
