import Refetch.Http.Host
/-!
# Addresses

An address in its normal form: scheme and host in lower case, no default port, a path without dot
segments, and everything that an address may not hold as it is written as a percent escape.

* `Authority`      user, host and port;
* `Path`           a path of segments, or one that is not divided;
* `Url`            the pieces of an address;
* `Url.text`       the whole address;
* `Url.target`     path and query, what a request line names;
* `Url.withoutUser`, `Url.withoutFragment`   the address without what is not for others.
-/

namespace Refetch.Http

/-- user, host and port; an empty name or password is none -/
structure Authority where
  user : String
  password : String
  host : Host
  /-- the port, unless it is that of the scheme -/
  port : Option Nat
  deriving DecidableEq, Repr

/-- a path: its segments, or the whole of one that is not divided -/
inductive Path where
  | steps (segments : List String)
  | whole (text : String)
  deriving DecidableEq, Repr

/-- an address in normal form -/
structure Url where
  scheme : String
  authority : Option Authority
  path : Path
  query : Option String
  fragment : Option String
  deriving DecidableEq, Repr

namespace Url

/-- the schemes whose addresses have a domain name, and the ports they have without saying so -/
def defaultPorts : List (String × Nat) :=
  [("http", 80), ("https", 443), ("ws", 80), ("wss", 443), ("ftp", 21)]

def defaultPort? (scheme : String) : Option Nat := defaultPorts.lookup scheme

def fileScheme : String := "file"

/-- the scheme knows domain names: both slashes divide its paths, and it always has a host -/
def isWeb (scheme : String) : Bool := scheme == fileScheme || (defaultPort? scheme).isSome

end Url

namespace Authority

/-- user name and password, with the mark that ends them -/
def userPart (a : Authority) : String :=
  if a.user.isEmpty && a.password.isEmpty then ""
  else if a.password.isEmpty then a.user ++ "@"
  else a.user ++ ":" ++ a.password ++ "@"

def hostPart (a : Authority) : String :=
  match a.port with
  | some p => a.host.text ++ ":" ++ Text.natText p
  | none => a.host.text

def text (a : Authority) : String := a.userPart ++ a.hostPart

end Authority

def Path.text : Path → String
  | .steps ss => String.join (ss.map fun s => "/" ++ s)
  | .whole s => s

/-- the path would be read as an authority if it came first -/
def Path.looksLikeAuthority : Path → Bool
  | .steps ("" :: _ :: _) => true
  | _ => false

namespace Url

/-- a piece with its mark before it, or nothing -/
def marked (mark : String) : Option String → String
  | some s => mark ++ s
  | none => ""

def target (u : Url) : String := u.path.text ++ marked "?" u.query

/-- the authority behind its slashes; without one, a path that looks like one is set off -/
def authorityPart (u : Url) : String :=
  match u.authority with
  | some a => "//" ++ a.text
  | none => if u.path.looksLikeAuthority then "/." else ""

def text (u : Url) : String :=
  u.scheme ++ ":" ++ u.authorityPart ++ u.target ++ marked "\x23" u.fragment

def withoutUser (u : Url) : Url :=
  { u with authority := u.authority.map fun a => { a with user := "", password := "" } }

def withoutFragment (u : Url) : Url := { u with fragment := none }

/-- the port, said or not -/
def port? (u : Url) : Option Nat :=
  match u.authority with
  | some a => a.port.orElse fun _ => defaultPort? u.scheme
  | none => none

def host? (u : Url) : Option Host := u.authority.map Authority.host

end Url

end Refetch.Http
