import Refetch.Text.Numeral
/-!
# Numeric hosts of four bytes

A host whose last part is a number is an address of 32 bits.  It has up to four parts; each is a
decimal, octal (`0…`) or hexadecimal (`0x…`) number, all but the last one byte, and the last one
fills the bytes that are left.

* `Ipv4.endsInNumber cs`   the host is such an address or none at all;
* `Ipv4.ofParts? cs`       the address;
* `Ipv4.text n`            its four bytes in decimal.
-/

namespace Refetch.Http.Ipv4

open Text (pieces natText)

def isOctalDigit (c : Char) : Bool := 48 ≤ c.toNat && c.toNat ≤ 55

def natOfOctal (cs : List Char) : Nat := cs.foldl (fun n c => 8 * n + Text.digitValue c) 0

def part? (cs : List Char) : Option Nat :=
  match cs with
  | [] => none
  | '0' :: 'x' :: ds => if ds.all Text.isHexDigit then some (Text.natOfHex ds) else none
  | '0' :: 'X' :: ds => if ds.all Text.isHexDigit then some (Text.natOfHex ds) else none
  | '0' :: ds => if ds.all isOctalDigit then some (natOfOctal ds) else none
  | ds => if ds.all Text.isDigit then some (Text.natOf ds) else none

/-- the parts of a host; a full stop at its end ends the last one -/
def parts (cs : List Char) : List (List Char) :=
  let ps := pieces '.' cs
  if 1 < ps.length && ps.getLast? == some [] then ps.dropLast else ps

/-- the last part of a host is a number, if only by its digits -/
def endsInNumber (cs : List Char) : Bool :=
  match (parts cs).getLast? with
  | some p => (!p.isEmpty && p.all Text.isDigit) || (part? p).isSome
  | none => false

/-- so many numbers of one byte each, and the rest in the bytes that are left -/
def assemble (count : Nat) : List Nat → Option Nat
  | [] => none
  | [last] => if last < Nat.pow 256 (4 - count) then some last else none
  | n :: ns =>
    if n < 256 then
      (assemble (count + 1) ns).map fun rest => n * Nat.pow 256 (3 - count) + rest
    else none

def ofParts? (cs : List Char) : Option Nat :=
  let ps := parts cs
  if ps.length ≤ 4 then (ps.mapM part?).bind (assemble 0) else none

/-- the byte of an address at a place from the left -/
def byteAt (n i : Nat) : Nat := n / Nat.pow 256 (3 - i) % 256

def text (n : Nat) : String :=
  ".".intercalate ((List.range 4).map fun i => natText (byteAt n i))

end Refetch.Http.Ipv4
