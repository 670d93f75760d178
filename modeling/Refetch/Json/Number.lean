import Refetch.Json.Text
/-!
# JSON numbers

* `readNumber`   a number after its sign: the natural number it is when it is written without
                 fraction and exponent and fits a 64-bit word, or nothing for any other number;
* `skipNumber`   a number after its sign, passed over.

A number that is read has to lie in the range of binary floating point with 53 bits; a number
that is passed over may be of any size.
-/

namespace Refetch.Json

open Text (isDigit digitValue natOf)

def wordMax : Nat := UInt64.size - 1

/-- the nearest number with 53 significant bits, ties to the even one -/
def roundTo53 (n : Nat) : Nat :=
  if n < Nat.pow 2 53 then n
  else
    let k := n.log2 - 52
    let q := n / Nat.pow 2 k
    let r := n % Nat.pow 2 k
    let half := Nat.pow 2 (k - 1)
    (if half < r || (r == half && q % 2 == 1) then q + 1 else q) * Nat.pow 2 k

/-- `digits` times ten to the power `exponent` lies beyond the range of floating point -/
def isHuge (digits : Nat) (exponent : Int) : Bool :=
  digits != 0 && 0 ≤ exponent &&
    (308 < exponent ||
      Nat.pow 2 1024 - Nat.pow 2 970 ≤
        roundTo53 digits * roundTo53 (Nat.pow 10 exponent.toNat))

/-- a number that is not natural, if it is in range -/
def finite (digits : Nat) (exponent : Int) (rest : List Char) :
    Except Problem (Option Nat × List Char) :=
  if isHuge digits exponent then .error .malformed else .ok (none, rest)

def exponentMax : Nat := 2147483647

def readExponentDigits (digits : Nat) (start : Int) (negative : Bool) :
    List Char → Except Problem (Option Nat × List Char)
  | [] => .error .truncated
  | c :: cs =>
    if isDigit c then
      let ds := (c :: cs).takeWhile isDigit
      let rest := (c :: cs).dropWhile isDigit
      let e := natOf ds
      if exponentMax < e then
        if digits != 0 && !negative then .error .malformed else .ok (none, rest)
      else finite digits (if negative then start - e else start + e) rest
    else .error .malformed

def readExponent (digits : Nat) (start : Int) :
    List Char → Except Problem (Option Nat × List Char)
  | '+' :: cs => readExponentDigits digits start false cs
  | '-' :: cs => readExponentDigits digits start true cs
  | cs => readExponentDigits digits start false cs

def readOptionalExponent (digits : Nat) (start : Int) :
    List Char → Except Problem (Option Nat × List Char)
  | 'e' :: cs => readExponent digits start cs
  | 'E' :: cs => readExponent digits start cs
  | cs => finite digits start cs

/-- the digits of a fraction while they fit a word: the digits, how many, and the rest -/
def fractionDigits (digits count : Nat) : List Char → Nat × Nat × List Char
  | [] => (digits, count, [])
  | c :: cs =>
    if isDigit c && 10 * digits + digitValue c ≤ wordMax then
      fractionDigits (10 * digits + digitValue c) (count + 1) cs
    else (digits, count, c :: cs)

def readFraction (digits : Nat) (start : Int) (cs : List Char) :
    Except Problem (Option Nat × List Char) :=
  match cs with
  | [] => .error .truncated
  | c :: _ =>
    if isDigit c then
      let r := fractionDigits digits 0 cs
      readOptionalExponent r.1 (start - r.2.1) (r.2.2.dropWhile isDigit)
    else .error .malformed

/-- the first digits of a number while they fit a word, and how many are left -/
def leadingDigits (digits : Nat) : List Char → Nat × Nat
  | [] => (digits, 0)
  | c :: cs =>
    if 10 * digits + digitValue c ≤ wordMax then leadingDigits (10 * digits + digitValue c) cs
    else (digits, cs.length + 1)

/-- what follows the whole digits `ds` of a number -/
def readNumberTail (ds rest : List Char) : Except Problem (Option Nat × List Char) :=
  let lead := leadingDigits 0 ds
  match rest with
  | '.' :: cs => readFraction lead.1 lead.2 cs
  | 'e' :: cs => readExponent lead.1 lead.2 cs
  | 'E' :: cs => readExponent lead.1 lead.2 cs
  | cs => if lead.2 = 0 then .ok (some lead.1, cs) else finite lead.1 lead.2 cs

def readNumber : List Char → Except Problem (Option Nat × List Char)
  | [] => .error .truncated
  | c :: cs =>
    if !isDigit c then .error .malformed
    else if c = '0' then
      if cs.head?.any isDigit then .error .malformed else readNumberTail ['0'] cs
    else readNumberTail ((c :: cs).takeWhile isDigit) ((c :: cs).dropWhile isDigit)

/-! ## numbers passed over -/

def skipDigits : List Char → Except Problem (List Char)
  | c :: cs => if isDigit c then .ok (cs.dropWhile isDigit) else .error .malformed
  | [] => .error .malformed

def skipExponent : List Char → Except Problem (List Char)
  | '+' :: cs => skipDigits cs
  | '-' :: cs => skipDigits cs
  | cs => skipDigits cs

def skipOptionalExponent : List Char → Except Problem (List Char)
  | 'e' :: cs => skipExponent cs
  | 'E' :: cs => skipExponent cs
  | cs => .ok cs

def skipNumberTail : List Char → Except Problem (List Char)
  | '.' :: cs =>
    match skipDigits cs with
    | .error p => .error p
    | .ok rest => skipOptionalExponent rest
  | cs => skipOptionalExponent cs

/-- a number after its sign, passed over; its end is no excuse for a missing digit -/
def skipNumber : List Char → Except Problem (List Char)
  | [] => .error .malformed
  | c :: cs =>
    if !isDigit c then .error .malformed
    else if c = '0' then
      if cs.head?.any isDigit then .error .malformed else skipNumberTail cs
    else skipNumberTail (cs.dropWhile isDigit)

end Refetch.Json
