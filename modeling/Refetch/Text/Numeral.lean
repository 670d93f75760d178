import Refetch.Text.Split
/-!
# Numerals

* `natOf cs`            the number that a list of decimal digits denotes, leading zeros allowed;
* `natText n`           the plain decimal text of `n`;
* `natOfHex cs`         the number that a list of hexadecimal digits denotes, in either case;
* `hexText n`           the plain hexadecimal text of `n`, in lower case;
* `hexEntries lines`    a table that is written down in such numerals;
* `within edges c`      a property that begins and ends at these code points in turn;
* `valueAt runs d c`    the value of the last run of code points that begins at or before `c`.
-/

namespace Refetch.Text

def isDigit (c : Char) : Bool := 48 ≤ c.toNat && c.toNat ≤ 57

def digitValue (c : Char) : Nat := c.toNat - 48

/-- the number read so far, followed by more digits -/
def natFrom (n : Nat) (cs : List Char) : Nat := cs.foldl (fun n c => 10 * n + digitValue c) n

def natOf (cs : List Char) : Nat := natFrom 0 cs

theorem natFrom_cons (n : Nat) (c : Char) (cs : List Char) :
    natFrom n (c :: cs) = natFrom (10 * n + digitValue c) cs := by
  rw [natFrom, natFrom, List.foldl_cons]

theorem natFrom_append (n : Nat) (a b : List Char) :
    natFrom n (a ++ b) = natFrom (natFrom n a) b := by
  simp [natFrom, List.foldl_append]

def natDigits (n : Nat) : List Char := Nat.toDigits 10 n

def natText (n : Nat) : String := String.ofList (natDigits n)

/-! ## hexadecimal -/

/-- the value of a hexadecimal digit in either case -/
def hexValue? (c : Char) : Option Nat :=
  let n := c.toNat
  if 48 ≤ n && n ≤ 57 then some (n - 48)
  else if 65 ≤ n && n ≤ 70 then some (n - 55)
  else if 97 ≤ n && n ≤ 102 then some (n - 87)
  else none

def isHexDigit (c : Char) : Bool := (hexValue? c).isSome

def natOfHex (cs : List Char) : Nat := cs.foldl (fun n c => 16 * n + (hexValue? c).getD 0) 0

/-- the plain hexadecimal digits of a number, in lower case -/
def hexDigits (n : Nat) : List Char := Nat.toDigits 16 n

/-- the plain hexadecimal text of a number, in lower case -/
def hexText (n : Nat) : String := String.ofList (hexDigits n)

/-! ## tables over code points -/

/-- the words of an entry: numerals, several of them joined by plus signs -/
def hexWords (entry : List Char) : List (List Nat) :=
  ((pieces ' ' entry).filter fun w => !w.isEmpty).map fun w => (pieces '+' w).map natOfHex

/-- the entries of a table, a line of which holds one or more with semicolons between them -/
def hexEntries (lines : List String) : List (List (List Nat)) :=
  lines.flatMap fun l => (pieces ';' l.toList).map hexWords

/-- the character lies after an odd number of edges -/
def within (edges : List Nat) (c : Char) : Bool :=
  (edges.takeWhile (· ≤ c.toNat)).length % 2 == 1

/-- the value of the run that the character lies in; `before` is that before all runs -/
def valueAt {α : Type} (runs : List (Nat × α)) (before : α) (c : Char) : α :=
  match (runs.takeWhile fun r => r.1 ≤ c.toNat).getLast? with
  | some r => r.2
  | none => before

end Refetch.Text
