import Refetch.Text.Coding
/-!
# Escapes in addresses

Each piece of an address keeps visible ASCII as it is, but for the marks that would end the piece
or be misread in it; all else becomes percent escapes.

* `userText`, `segmentText`, `wholePathText`, `queryText`, `fragmentText`   the pieces in their
  escaped form.
-/

namespace Refetch.Http

namespace Url

/-- a visible ASCII character that is not among `stops` -/
def keeps (stops : List Char) (c : Char) : Bool :=
  32 < c.toNat && c.toNat < 127 && !stops.contains c

/-- a piece with all but the characters to keep escaped -/
def escaped (keep : Char → Bool) (cs : List Char) : String :=
  Text.percentEncode keep (String.ofList cs)

def fragmentStops : List Char := ['\x22', '<', '>', '\x60']

def queryStops : List Char := ['\x22', '\x23', '<', '>']

/-- the marks that a query escapes when the scheme knows domain names -/
def webQueryStops : List Char := '\x27' :: queryStops

def pathStops : List Char := ['\x22', '\x23', '<', '>', '?', '\x60', '\x7b', '\x7d']

def userStops : List Char :=
  pathStops ++ ['/', ':', ';', '=', '@', '[', '\x5c', ']', '^', '|']

def userText (cs : List Char) : String := escaped (keeps userStops) cs

def segmentText (cs : List Char) : String := escaped (keeps pathStops) cs

/-- a path that is not made of segments; it keeps its spaces -/
def wholePathText (cs : List Char) : String :=
  escaped (fun c => c == ' ' || keeps [] c) cs

def queryText (isWeb : Bool) (cs : List Char) : String :=
  escaped (keeps (if isWeb then webQueryStops else queryStops)) cs

def fragmentText (cs : List Char) : String := escaped (keeps fragmentStops) cs

end Url

end Refetch.Http
