/-!
# Taking texts apart

* `isBlank c`            the Unicode property White_Space, as its 25 code points;
* `trim cs`              `cs` without the blanks it starts and ends with;
* `piecesBy isMark cs`   the pieces between the marks, one more than there are marks;
* `pieces mark cs`       the same for one character as the mark;
* `splitLast? mark cs`   what is before the last mark and what is behind it.
-/

namespace Refetch.Text

/-- the Unicode property White_Space -/
def isBlank (c : Char) : Bool :=
  let n := c.toNat
  (9 ≤ n && n ≤ 13) || n == 0x20 || n == 0x85 || n == 0xA0 || n == 0x1680 ||
    (0x2000 ≤ n && n ≤ 0x200A) || n == 0x2028 || n == 0x2029 || n == 0x202F || n == 0x205F ||
    n == 0x3000

def trimEnd (cs : List Char) : List Char := (cs.reverse.dropWhile isBlank).reverse

def trim (cs : List Char) : List Char := trimEnd (cs.dropWhile isBlank)

/-! ## pieces -/

/-- the pieces of a text between its marks -/
def piecesBy (isMark : Char → Bool) : List Char → List (List Char)
  | [] => [[]]
  | c :: cs =>
    if isMark c then [] :: piecesBy isMark cs
    else
      match piecesBy isMark cs with
      | p :: ps => (c :: p) :: ps
      | [] => [[c]]

def pieces (mark : Char) (cs : List Char) : List (List Char) := piecesBy (· == mark) cs

/-- the text before the last `mark` and the text behind it -/
def splitLast? (mark : Char) (cs : List Char) : Option (List Char × List Char) :=
  let back := cs.reverse.takeWhile (· != mark)
  if back.length == cs.length then none
  else some (cs.take (cs.length - back.length - 1), back.reverse)

end Refetch.Text
