import Refetch.Http.Ipv4
/-!
# Numeric hosts of sixteen bytes

Such a host has eight groups of up to four hexadecimal digits with colons between them.  Two
colons stand for a run of zero groups, once; the last two groups may be written as four decimal
bytes.  The longest run of two or more zero groups, and of several the first, is left out when
the host is shown.

* `Ipv6.ofText? cs`   the groups;
* `Ipv6.text gs`      their text.
-/

namespace Refetch.Http.Ipv6

open Text (pieces)

def group? (cs : List Char) : Option Nat :=
  if !cs.isEmpty && cs.length ≤ 4 && cs.all Text.isHexDigit then some (Text.natOfHex cs) else none

/-- a decimal byte without needless zeros -/
def byte? (cs : List Char) : Option Nat :=
  if cs.isEmpty || !cs.all Text.isDigit || (1 < cs.length && cs.head? == some '0') then none
  else if Text.natOf cs < 256 then some (Text.natOf cs) else none

def dotted? (cs : List Char) : Option (List Nat) :=
  match (pieces '.' cs).mapM byte? with
  | some [a, b, c, d] => some [256 * a + b, 256 * c + d]
  | _ => none

/-- some groups with colons between them; those at the end of the host may be decimal bytes -/
def groups? (atEnd : Bool) : List (List Char) → Option (List Nat)
  | [] => some []
  | [p] => if atEnd && p.contains '.' then dotted? p else (group? p).map fun g => [g]
  | p :: ps =>
    match group? p, groups? atEnd ps with
    | some g, some gs => some (g :: gs)
    | _, _ => none

/-- one side of the run of zeros -/
def side? (atEnd : Bool) (cs : List Char) : Option (List Nat) :=
  if cs.isEmpty then some [] else groups? atEnd (pieces ':' cs)

/-- the text before the first two colons, and the text behind them if there are any -/
def splitRun : List Char → List Char × Option (List Char)
  | ':' :: ':' :: cs => ([], some cs)
  | c :: cs => (c :: (splitRun cs).1, (splitRun cs).2)
  | [] => ([], none)

def groupCount : Nat := 8

def ofText? (cs : List Char) : Option (List Nat) :=
  match splitRun cs with
  | (whole, none) =>
    match side? true whole with
    | some gs => if gs.length = groupCount then some gs else none
    | none => none
  | (front, some back) =>
    match side? false front, side? true back with
    | some f, some b =>
      if f.length + b.length < groupCount then
        some (f ++ List.replicate (groupCount - f.length - b.length) 0 ++ b)
      else none
    | _, _ => none

def zerosAt (gs : List Nat) : Nat := (gs.takeWhile (· == 0)).length

/-- the place and the length of the first longest run of zero groups -/
def longestRun : Nat → List Nat → Nat × Nat
  | _, [] => (0, 0)
  | i, g :: gs =>
    let later := longestRun (i + 1) gs
    if zerosAt (g :: gs) < later.2 then later else (i, zerosAt (g :: gs))

def joined (gs : List Nat) : String := ":".intercalate (gs.map Text.hexText)

def text (gs : List Nat) : String :=
  let run := longestRun 0 gs
  if run.2 < 2 then joined gs
  else joined (gs.take run.1) ++ "::" ++ joined (gs.drop (run.1 + run.2))

end Refetch.Http.Ipv6
