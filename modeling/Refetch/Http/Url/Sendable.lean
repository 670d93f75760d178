import Refetch.Http.Token
import Refetch.Http.Url
/-!
# Addresses that a request can name

A request line is stricter than an address: its host holds no escapes and no marks beyond those of
RFC 3986, and the whole is of bounded length.

* `isRequestAuthority cs`   a text that can stand for an authority;
* `Url.isSendable`          an address that a request can name.
-/

namespace Refetch.Http

/-- the marks that an authority may hold besides those that divide it -/
def authorityMarks : List Char :=
  ['!', '$', '&', '\x27', '(', ')', '*', '+', ',', '-', '.', ';', '=', '_', '~']

/-- the most colons that an authority holds before a mark that starts the count anew -/
def colonCap : Nat := 8

structure AuthorityScan where
  /-- the colons since the user or the brackets ended -/
  colons : Nat
  opened : Bool
  closed : Bool
  /-- an escape since the user or the brackets ended -/
  hasEscape : Bool

namespace AuthorityScan

def start : AuthorityScan := ⟨0, false, false, false⟩

def add? (s : AuthorityScan) (c : Char) : Option AuthorityScan :=
  if c == ':' then if s.colons < colonCap then some { s with colons := s.colons + 1 } else none
  else if c == '[' then
    if s.hasEscape || s.opened then none else some { s with opened := true }
  else if c == ']' then
    if !s.opened || s.closed then none
    else some { s with closed := true, colons := 0, hasEscape := false }
  else if c == '@' then some { s with colons := 0, hasEscape := false }
  else if c == '%' then some { s with hasEscape := true }
  else if isAlphanum c || authorityMarks.contains c then some s
  else none

/-- all is closed, and there is one port at most -/
def isDone (s : AuthorityScan) : Bool := s.opened == s.closed && s.colons ≤ 1 && !s.hasEscape

end AuthorityScan

/-- a text that can stand for an authority; only the user may hold escapes, and a host follows -/
def isRequestAuthority (cs : List Char) : Bool :=
  !cs.isEmpty && cs.getLast? != some '@' &&
    match cs.foldlM AuthorityScan.add? .start with
    | some s => s.isDone
    | none => false

namespace Url

/-- the length of the longest address that a request can name -/
def sendableCap : Nat := 65534

/-- an address that a request can name; one without an authority has to look like one -/
def isSendable (u : Url) : Bool :=
  u.text.length ≤ sendableCap &&
    match u.authority with
    | some a => isRequestAuthority a.text.toList
    | none => isRequestAuthority u.text.toList

def isHttp (u : Url) : Bool := u.scheme == "http" || u.scheme == "https"

end Url

end Refetch.Http
