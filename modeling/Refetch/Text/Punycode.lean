import Refetch.Text.Numeral
/-!
# Names beyond ASCII, written in ASCII

Punycode (RFC 3492) writes a text as its ASCII characters, a hyphen, and the other characters as
numbers: in the order of their code points, each number says how far on the next character stands
when places and code points are counted together.  The numbers have digits of base 36 whose
weights adapt to the numbers before.

* `punycode cs`      the text in ASCII;
* `ofPunycode? cs`   the text that is written so, if there is one.
-/

namespace Refetch.Text

namespace Punycode

def digit (n : Nat) : Char := if n < 26 then Char.ofNat (97 + n) else Char.ofNat (22 + n)

def value? (c : Char) : Option Nat :=
  let n := c.toNat
  if 97 ≤ n && n ≤ 122 then some (n - 97)
  else if 65 ≤ n && n ≤ 90 then some (n - 65)
  else if isDigit c then some (digitValue c + 26)
  else none

def asciiEnd : Nat := 128

def firstBias : Nat := 72

/-- the digit from which on a digit at weight place `k` is followed by another -/
def threshold (bias k : Nat) : Nat := if k ≤ bias then 1 else min 26 (k - bias)

theorem threshold_pos (bias k : Nat) : 0 < threshold bias k := by
  unfold threshold
  split <;> omega

/-- the bias that a number of this size leaves, `k` added -/
def settle (n k : Nat) : Nat :=
  if 455 < n then settle (n / 35) (k + 36) else k + 36 * n / (n + 38)
termination_by n
decreasing_by exact Nat.div_lt_self (by omega) (by omega)

/-- the bias after a number, when `count` characters are written with it -/
def adapt (n count : Nat) (isFirst : Bool) : Nat :=
  let half := if isFirst then n / 700 else n / 2
  settle (half + half / count) 0

/-- a number in digits, from weight place `k` on -/
def digits (bias k n : Nat) : List Char :=
  let t := threshold bias k
  if n < t then [digit n]
  else digit (t + (n - t) % (36 - t)) :: digits bias (k + 36) ((n - t) / (36 - t))
termination_by n
decreasing_by
  have h := threshold_pos bias k
  calc (n - threshold bias k) / (36 - threshold bias k)
      ≤ n - threshold bias k := Nat.div_le_self _ _
    _ < n := by omega

/-! ## writing -/

/-- a text being written -/
structure Writing where
  /-- the places passed since the last number -/
  distance : Nat
  bias : Nat
  count : Nat
  /-- the text without its ASCII characters, reversed -/
  back : List Char

/-- one character of the text, while those of code point `n` are written -/
def Writing.pass (ascii n : Nat) (w : Writing) (c : Char) : Writing :=
  if c.toNat < n then { w with distance := w.distance + 1 }
  else if c.toNat = n then
    { distance := 0
      bias := adapt w.distance (w.count + 1) (w.count == ascii)
      count := w.count + 1
      back := (digits w.bias 36 w.distance).reverse ++ w.back }
  else w

/-- one pass over the text for each code point in it; `before` is the one after the last -/
def Writing.passes (cs : List Char) (ascii : Nat) (w : Writing) (before : Nat) :
    List Nat → Writing
  | [] => w
  | n :: ns =>
    let w := { w with distance := w.distance + (n - before) * (w.count + 1) }
    let w := cs.foldl (Writing.pass ascii n) w
    Writing.passes cs ascii { w with distance := w.distance + 1 } (n + 1) ns

/-- a number in an ascending list, once -/
def insertOnce (n : Nat) : List Nat → List Nat
  | [] => [n]
  | m :: ms => if n < m then n :: m :: ms else if n = m then m :: ms else m :: insertOnce n ms

/-- the code points beyond ASCII, each once and ascending -/
def codePoints (cs : List Char) : List Nat :=
  (cs.filter fun c => asciiEnd ≤ c.toNat).foldl (fun ns c => insertOnce c.toNat ns) []

def asciiPart (cs : List Char) : List Char := cs.filter fun c => c.toNat < asciiEnd

/-! ## reading -/

/-- a text being read -/
structure Reading where
  /-- the place and the code point that the numbers have come to -/
  place : Nat
  point : Nat
  bias : Nat
  /-- the number that is being read, the weight of its next digit, and that digit's place -/
  number : Nat
  weight : Nat
  digitPlace : Nat
  isFirst : Bool
  text : List Char

def Reading.start (text : List Char) : Reading :=
  ⟨0, asciiEnd, firstBias, 0, 1, 36, true, text⟩

/-- a whole number: the character that it brings is put in its place -/
def Reading.insert? (r : Reading) (number : Nat) : Option Reading :=
  let count := r.text.length + 1
  let place := r.place + number
  let point := r.point + place / count
  let spot := place % count
  if point.isValidChar then
    some ⟨spot + 1, point, adapt number count r.isFirst, 0, 1, 36, false,
      r.text.take spot ++ Char.ofNat point :: r.text.drop spot⟩
  else none

/-- one more digit -/
def Reading.add? (r : Reading) (c : Char) : Option Reading :=
  match value? c with
  | none => none
  | some d =>
    let number := r.number + d * r.weight
    let t := threshold r.bias r.digitPlace
    if d < t then r.insert? number
    else some { r with
      number := number
      weight := r.weight * (36 - t)
      digitPlace := r.digitPlace + 36 }

/-- the text between the numbers, when no number is open -/
def Reading.text? (r : Reading) : Option (List Char) :=
  if r.digitPlace = 36 then some r.text else none

end Punycode

open Punycode

def punycode (cs : List Char) : List Char :=
  let ascii := asciiPart cs
  let w := Writing.passes cs ascii.length ⟨0, firstBias, ascii.length, []⟩ asciiEnd
    (codePoints cs)
  ascii ++ (if ascii.isEmpty then [] else ['-']) ++ w.back.reverse

/-- the text that is written in ASCII, if there is one; without ASCII characters there is no
hyphen -/
def ofPunycode? (cs : List Char) : Option (List Char) :=
  let behind := (cs.reverse.takeWhile (· != '-')).reverse
  let ascii := cs.take (cs.length - behind.length - 1)
  let numbers := if ascii.isEmpty then cs else behind
  if ascii.all fun c => c.toNat < asciiEnd then
    (numbers.foldlM Reading.add? (Reading.start ascii)).bind Reading.text?
  else none

end Refetch.Text
