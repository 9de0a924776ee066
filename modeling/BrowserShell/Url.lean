import BrowserShell.Url.Host

/-!
# URLs

An absolute URL in its parts, and the text that it is kept as. The parts hold what is written, that
is, after percent encoding and with the dots of the path resolved; `Url.parse` in
`BrowserShell.Url.Parser` makes them.
-/

namespace BrowserShell

/-- What stands between the two slashes and the path. -/
structure Authority where
  /-- Name and password as written, empty or with the `@` behind them. -/
  userInfo : String
  /-- The host, if there is one. -/
  host : Option Host
  /-- The port, if it is not the usual one of the scheme. -/
  port : Option Nat
deriving DecidableEq, Repr, Inhabited

/-- An absolute URL. -/
structure Url where
  /-- The scheme, in lower case. -/
  scheme : String
  /-- The authority, none where no two slashes follow the scheme. -/
  authority : Option Authority
  /-- The path; it begins with a slash unless it is opaque or empty. -/
  path : String
  /-- What follows the question mark. -/
  query : Option String
  /-- What follows the number sign. -/
  fragment : Option String
deriving DecidableEq, Repr, Inhabited

namespace Url

/-- Whether a scheme is special: its URLs have a host and a path. -/
def isSpecial (scheme : String) : Bool :=
  ["http", "https", "ws", "wss", "ftp", "file"].contains scheme

/-- The usual port of a scheme. -/
def defaultPort? : (scheme : String) → Option Nat
  | "http" | "ws" => some 80
  | "https" | "wss" => some 443
  | "ftp" => some 21
  | _ => none

/-- The authority as written, its two slashes included. -/
def Authority.render (a : Authority) : String :=
  "//" ++ a.userInfo ++ (a.host.map Host.render).getD "" ++
    (a.port.map fun p => ":" ++ p.repr).getD ""

/-- The host as written. -/
def hostText? (u : Url) : Option String := u.authority.bind fun a => a.host.map Host.render

/-- What stands between the scheme and the path. A path that begins with two slashes would be taken
for an authority, so a dot is put before it. -/
def beforePath (u : Url) : String :=
  match u.authority with
  | some a => Authority.render a
  | none => if u.path.toList.take 2 = ['/', '/'] then "/." else ""

/-- The text of a URL. -/
def render (u : Url) : String :=
  u.scheme ++ ":" ++ u.beforePath ++ u.path ++ (u.query.map ("?" ++ ·)).getD "" ++
    (u.fragment.map ("#" ++ ·)).getD ""

end Url

end BrowserShell
