import Refetch.Text.Numeral
import Refetch.Text.Utf8
/-!
# Bytes as text

* `percentEncode keep s`  every byte of the text that is not a character in `keep`, escaped;
* `percentDecode b`       every escape in its byte, and all else as it is;
* `base64 b`              the bytes in groups of three, each group as four characters; the last
                          group is filled up with equals signs.

The bytes of a character beyond ASCII are always escaped, since `keep` is asked about ASCII
only.
-/

namespace Refetch.Text

def upperHex (n : Nat) : Char := if n < 10 then Char.ofNat (48 + n) else Char.ofNat (55 + n)

def percentByte (b : UInt8) : List Char :=
  ['%', upperHex (b.toNat / 16), upperHex (b.toNat % 16)]

/-- one byte, escaped unless it is an ASCII character to keep -/
def percentUnless (keep : Char → Bool) (b : UInt8) : List Char :=
  if b < 128 && keep (Char.ofNat b.toNat) then [Char.ofNat b.toNat] else percentByte b

def percentEncode (keep : Char → Bool) (s : String) : String :=
  String.ofList ((utf8 s).flatMap (percentUnless keep))

def hexByte? (b : UInt8) : Option Nat := hexValue? (Char.ofNat b.toNat)

/-- the byte that an escape stands for, by its two digits -/
def escapedByte? (a b : UInt8) : Option UInt8 :=
  match hexByte? a, hexByte? b with
  | some x, some y => some (UInt8.ofNat (16 * x + y))
  | _, _ => none

def percentDecode : Bytes → Bytes
  | p :: a :: b :: rest =>
    match if p == 37 then escapedByte? a b else none with
    | some x => x :: percentDecode rest
    | none => p :: percentDecode (a :: b :: rest)
  | bs => bs

/-! ## base 64 -/

/-- the character for six bits -/
def sextet (n : Nat) : Char :=
  if n < 26 then Char.ofNat (65 + n)
  else if n < 52 then Char.ofNat (71 + n)
  else if n < 62 then Char.ofNat (n - 4)
  else if n = 62 then '+'
  else '/'

def base64 : Bytes → List Char
  | [] => []
  | [a] => [sextet (a.toNat / 4), sextet (a.toNat % 4 * 16), '=', '=']
  | [a, b] =>
    [sextet (a.toNat / 4), sextet (a.toNat % 4 * 16 + b.toNat / 16),
      sextet (b.toNat % 16 * 4), '=']
  | a :: b :: c :: rest =>
    sextet (a.toNat / 4) :: sextet (a.toNat % 4 * 16 + b.toNat / 16) ::
      sextet (b.toNat % 16 * 4 + c.toNat / 64) :: sextet (c.toNat % 64) :: base64 rest

end Refetch.Text
