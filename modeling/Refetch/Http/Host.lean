import Refetch.Http.Domain
import Refetch.Http.Ipv6
import Refetch.Text.Coding
/-!
# Hosts

* `Host`             a name, or an address in numbers;
* `Host.ofText?`     reads the host of an address whose scheme knows domain names;
* `Host.ofOpaque?`   reads any other host, whose name is kept as it is;
* `Host.text`        the text of a host.
-/

namespace Refetch.Http

inductive Host where
  | name (text : String)
  | ipv4 (address : Nat)
  | ipv6 (groups : List Nat)
  deriving DecidableEq, Repr

namespace Host

def empty : Host := .name ""

def text : Host → String
  | .name s => s
  | .ipv4 n => Ipv4.text n
  | .ipv6 gs => "[" ++ Ipv6.text gs ++ "]"

def ofBrackets? (cs : List Char) : Option Host :=
  if cs.getLast? == some ']' then (Ipv6.ofText? (cs.drop 1).dropLast).map .ipv6 else none

def ofDomain? (cs : List Char) : Option Host :=
  if cs.isEmpty then none
  else if Ipv4.endsInNumber cs then (Ipv4.ofParts? cs).map .ipv4
  else some (.name (String.ofList cs))

/-- the host of an address whose scheme knows domain names -/
def ofText? (cs : List Char) : Option Host :=
  if cs.head? == some '[' then ofBrackets? cs
  else
    let plain := Text.ofUtf8? (Text.percentDecode (Text.utf8 (String.ofList cs)))
    (plain.bind fun s => asciiDomain? s.toList).bind ofDomain?

/-- the characters that no host holds -/
def hostStops : List Char :=
  ['\x00', '\t', '\n', '\r', ' ', '\x23', '/', ':', '<', '>', '?', '@', '[', '\x5c', ']', '^',
    '|']

def isPlain (c : Char) : Bool := 32 ≤ c.toNat && c.toNat < 127

/-- the host of any other address -/
def ofOpaque? (cs : List Char) : Option Host :=
  if cs.head? == some '[' then ofBrackets? cs
  else if cs.any fun c => hostStops.contains c then none
  else some (.name (Text.percentEncode isPlain (String.ofList cs)))

end Host

end Refetch.Http
