import Refetch.Text.Numeral
/-!
# JSON text: blanks, words and strings

A reader takes the characters that are left and gives back what it read with the characters after
it, or the first problem it met:

* `Problem`      what is wrong with a text;
* `skipBlank`    drops the four blanks of JSON;
* `word`         an expected word;
* `readString`   a string after its opening quote, with its escapes decoded;
* `skipString`   a string after its opening quote, passed over.

The two string readers differ in what they ask of `\u` escapes: the one that decodes needs every
surrogate in its pair, the one that passes over does not look.
-/

namespace Refetch.Json

open Text (hexValue?)

inductive Problem where
  | truncated
  | malformed
  /-- it is JSON of another type or range than was asked for -/
  | mistyped
  deriving DecidableEq, Repr

def isBlank (c : Char) : Bool := c == ' ' || c == '\t' || c == '\n' || c == '\r'

def skipBlank (cs : List Char) : List Char := cs.dropWhile isBlank

/-- the text after an expected word -/
def word : List Char → List Char → Except Problem (List Char)
  | [], cs => .ok cs
  | _ :: _, [] => .error .truncated
  | w :: ws, c :: cs => if c = w then word ws cs else .error .malformed

/-! ## escapes -/

def hexValues? (a b c d : Char) : Option Nat := do
  let a ← hexValue? a
  let b ← hexValue? b
  let c ← hexValue? c
  let d ← hexValue? d
  return ((a * 16 + b) * 16 + c) * 16 + d

/-- a 16-bit unit in four hexadecimal digits; the text is too short below four bytes -/
def hexUnit : List Char → Except Problem (Nat × List Char)
  | a :: b :: c :: d :: rest =>
    match hexValues? a b c d with
    | some n => .ok (n, rest)
    | none => .error .malformed
  | short =>
    if (String.ofList short).utf8ByteSize < 4 then .error .truncated else .error .malformed

/-- the character that an escape of one letter stands for -/
def shortEscape? (c : Char) : Option Char :=
  if c = '\x22' then some '\x22'
  else if c = '\x5c' then some '\x5c'
  else if c = '/' then some '/'
  else if c = 'b' then some '\x08'
  else if c = 'f' then some '\x0c'
  else if c = 'n' then some '\n'
  else if c = 'r' then some '\r'
  else if c = 't' then some '\t'
  else none

def isHigh (n : Nat) : Bool := 0xD800 ≤ n && n ≤ 0xDBFF

def isLow (n : Nat) : Bool := 0xDC00 ≤ n && n ≤ 0xDFFF

/-- the second unit of a pair whose first is `high`, as the character of the pair -/
def pairWith (high : Nat) : List Char → Except Problem (Char × List Char)
  | [] => .error .truncated
  | '\x5c' :: [] => .error .truncated
  | '\x5c' :: 'u' :: cs =>
    match hexUnit cs with
    | .error p => .error p
    | .ok (low, rest) =>
      if isLow low then
        .ok (Char.ofNat ((high - 0xD800) * 1024 + (low - 0xDC00) + 0x10000), rest)
      else .error .malformed
  | _ => .error .malformed

/-- an escape after its backslash, as the character it stands for -/
def readEscape : List Char → Except Problem (Char × List Char)
  | [] => .error .truncated
  | c :: cs =>
    if c = 'u' then
      match hexUnit cs with
      | .error p => .error p
      | .ok (n, rest) =>
        if isLow n then .error .malformed
        else if isHigh n then pairWith n rest
        else .ok (Char.ofNat n, rest)
    else
      match shortEscape? c with
      | some d => .ok (d, cs)
      | none => .error .malformed

def skipEscape : List Char → Except Problem (List Char)
  | [] => .error .truncated
  | c :: cs =>
    if c = 'u' then (hexUnit cs).map Prod.snd
    else if (shortEscape? c).isSome then .ok cs
    else .error .malformed

/-! ## strings -/

/-- a character that a string may not hold as it is -/
def isControl (c : Char) : Bool := c.toNat < 32

/-- a string, read with so much fuel -/
def readStringWith : Nat → List Char → Except Problem (List Char × List Char)
  | 0, _ => .error .malformed
  | _ + 1, [] => .error .truncated
  | n + 1, c :: cs =>
    if c = '\x22' then .ok ([], cs)
    else if c = '\x5c' then
      match readEscape cs with
      | .error p => .error p
      | .ok (d, rest) => (readStringWith n rest).map fun r => (d :: r.1, r.2)
    else if isControl c then .error .malformed
    else (readStringWith n cs).map fun r => (c :: r.1, r.2)

def readString (cs : List Char) : Except Problem (List Char × List Char) :=
  readStringWith (cs.length + 1) cs

def skipStringWith : Nat → List Char → Except Problem (List Char)
  | 0, _ => .error .malformed
  | _ + 1, [] => .error .truncated
  | n + 1, c :: cs =>
    if c = '\x22' then .ok cs
    else if c = '\x5c' then
      match skipEscape cs with
      | .error p => .error p
      | .ok rest => skipStringWith n rest
    else if isControl c then .error .malformed
    else skipStringWith n cs

def skipString (cs : List Char) : Except Problem (List Char) :=
  skipStringWith (cs.length + 1) cs

end Refetch.Json
