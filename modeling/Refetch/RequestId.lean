import Refetch.Text.Numeral
import Refetch.Http.Token
/-!
# Identities of requests

An identity is a number of thirty-two hexadecimal digits.  It is shown in five groups, in lower
case; it is read in either case, in its groups or in one piece, and the groups may stand in
braces or behind `urn:uuid:`.

* `RequestId`           an identity from outside, or one drawn here;
* `RequestId.ofText?`   reads an identity;
* `RequestId.text`      shows it.
-/

namespace Refetch

inductive RequestId where
  /-- an identity from outside, by its digits in lower case -/
  | given (digits : List Char)
  /-- an identity drawn here, distinct from every other -/
  | drawn (serial : Nat)
  deriving DecidableEq, Repr, Inhabited

namespace RequestId

def groupSizes : List Nat := [8, 4, 4, 4, 12]

/-- the digits cut into groups -/
def groups : List Nat → List Char → List (List Char)
  | [], _ => []
  | n :: ns, cs => cs.take n :: groups ns (cs.drop n)

def hyphenated (digits : List Char) : List Char := ['-'].intercalate (groups groupSizes digits)

/-- the number of characters of all groups with their hyphens -/
def hyphenatedLength : Nat := 36

/-- what stands in braces or behind `urn:uuid:`, or the text itself -/
def unwrapped (cs : List Char) : List Char :=
  if cs.take 9 == "urn:uuid:".toList then cs.drop 9
  else if cs.head? == some '\x7b' && cs.getLast? == some '\x7d' then (cs.drop 1).dropLast
  else cs

/-- the digits of an identity in one piece or in groups -/
def digitsOf? (cs : List Char) : Option (List Char) :=
  let core := unwrapped cs
  let digits := core.filter (· != '-')
  let inOnePiece := cs.length == 32 && digits == cs
  let inGroups := core.length == hyphenatedLength && hyphenated digits == core
  if digits.length == 32 && digits.all Text.isHexDigit && (inOnePiece || inGroups) then
    some (digits.map Http.lowerChar)
  else none

def ofText? (s : String) : Option RequestId := (digitsOf? s.toList).map .given

def text : RequestId → String
  | .given digits => String.ofList (hyphenated digits)
  | .drawn n => toString n

end RequestId

end Refetch
