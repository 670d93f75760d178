import Refetch.Text.Composition
import Refetch.Text.Direction
import Refetch.Text.Folding
import Refetch.Text.Joining
import Refetch.Text.Split
import Refetch.Text.Punycode
/-!
# Domain names

A name in any script is brought to ASCII (Unicode Technical Standard 46): folded, composed, and
its labels beyond ASCII written in Punycode behind `xn--`.  A label that comes in this form has
to be one that would be written so.

* `asciiDomain? cs`   the name in ASCII, or nothing if it is none.
-/

namespace Refetch.Http

open Text (fold composed)

def punycodeMark : List Char := ['x', 'n', '-', '-']

/-- the longest label that is written in Punycode, and the longest that is read -/
def writtenLabelCap : Nat := 1000
def readLabelCap : Nat := 2000

def isAscii (c : Char) : Bool := c.toNat < 128

/-- a name in the form in which names are compared -/
def foldedName (cs : List Char) : List Char := composed (cs.flatMap fold)

/-- a label beyond ASCII that names may hold -/
def isLabel (cs : List Char) : Bool :=
  !cs.any Text.isBarred && Text.joinersFit cs &&
    match cs with
    | c :: _ => !Text.isMark c
    | [] => true

/-- a label in the script it is meant in -/
def meantLabel? (cs : List Char) : Option (List Char) :=
  if cs.take 4 == punycodeMark then
    let written := cs.drop 4
    if readLabelCap < written.length then none
    else
      match Text.ofPunycode? written with
      | some l =>
        if !l.all isAscii && !l.contains '.' && foldedName l == l && isLabel l then some l
        else none
      | none => none
  else if isLabel cs then some cs
  else none

def writtenLabel? (cs : List Char) : Option (List Char) :=
  if cs.all isAscii then some cs
  else if writtenLabelCap < cs.length then none
  else some (punycodeMark ++ Text.punycode cs)

def domainStops : List Char :=
  ['%', '\x23', '/', ':', '<', '>', '?', '@', '[', '\x5c', ']', '^', '|']

def isDomainChar (c : Char) : Bool := 32 < c.toNat && c.toNat != 127 && !domainStops.contains c

def asciiDomain? (cs : List Char) : Option (List Char) :=
  if cs.all isAscii && !cs.contains '-' then
    let name := cs.flatMap fold
    if name.all isDomainChar then some name else none
  else
    match (Text.pieces '.' (foldedName cs)).mapM meantLabel? with
    | none => none
    | some ls =>
      if ls.any Text.runsLeft && !ls.all Text.keepsDirection then none
      else
        match ls.mapM writtenLabel? with
        | none => none
        | some ws =>
          let name := ['.'].intercalate ws
          if name.all isDomainChar then some name else none

end Refetch.Http
