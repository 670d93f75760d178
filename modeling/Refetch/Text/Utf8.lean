import Refetch.Bytes
/-!
# UTF-8

* `utf8 s`           the bytes of a text;
* `characters b`     the bytes read as characters, with nothing in the place of each piece that is
                     none: a byte that begins no character, or the start of one that breaks off;
* `ofUtf8? b`        the text that the bytes are, if all of them are;
* `ofUtf8Lossy b`    the same with a replacement character for each other piece.
-/

namespace Refetch.Text

def utf8 (s : String) : Bytes := s.toUTF8.toList

/-- the least and the greatest value of a byte that goes on with a character -/
def tailRange : Nat × Nat := (0x80, 0xBF)

/-- the part of a character that its first byte holds, and the ranges of the bytes after it -/
def opening? (b : Nat) : Option (Nat × List (Nat × Nat)) :=
  if b ≤ 0x7F then some (b, [])
  else if 0xC2 ≤ b && b ≤ 0xDF then some (b % 32, [tailRange])
  else if b = 0xE0 then some (b % 16, [(0xA0, 0xBF), tailRange])
  else if b = 0xED then some (b % 16, [(0x80, 0x9F), tailRange])
  else if 0xE1 ≤ b && b ≤ 0xEF then some (b % 16, [tailRange, tailRange])
  else if b = 0xF0 then some (b % 8, [(0x90, 0xBF), tailRange, tailRange])
  else if 0xF1 ≤ b && b ≤ 0xF3 then some (b % 8, [tailRange, tailRange, tailRange])
  else if b = 0xF4 then some (b % 8, [(0x80, 0x8F), tailRange, tailRange])
  else none

/-- a character from the part read so far and the bytes after it, and the bytes left -/
def finish (n : Nat) : List (Nat × Nat) → Bytes → Option Char × Bytes
  | [], bs => (some (Char.ofNat n), bs)
  | _ :: _, [] => (none, [])
  | r :: rs, b :: bs =>
    if r.1 ≤ b.toNat && b.toNat ≤ r.2 then finish (64 * n + b.toNat % 64) rs bs
    else (none, b :: bs)

theorem length_finish (n : Nat) (rs : List (Nat × Nat)) (bs : Bytes) :
    (finish n rs bs).2.length ≤ bs.length := by
  induction rs generalizing n bs with
  | nil => simp [finish]
  | cons r rs ih =>
    cases bs with
    | nil => simp [finish]
    | cons b bs =>
      rw [finish]
      split
      · exact Nat.le_trans (ih _ _) (by simp)
      · simp

/-- the characters of some bytes, and nothing for each piece that is none -/
def characters : Bytes → List (Option Char)
  | [] => []
  | b :: bs =>
    match opening? b.toNat with
    | none => none :: characters bs
    | some o => (finish o.1 o.2 bs).1 :: characters (finish o.1 o.2 bs).2
termination_by bs => bs.length
decreasing_by
  · simp
  · exact Nat.lt_succ_of_le (length_finish _ _ _)

/-- the text that the bytes are, if they are one -/
def ofUtf8? (b : Bytes) : Option String := ((characters b).mapM id).map String.ofList

def replacement : Char := '\ufffd'

/-- the text that the bytes are, with a replacement for each piece that is no character -/
def ofUtf8Lossy (b : Bytes) : String :=
  String.ofList ((characters b).map fun c => c.getD replacement)

end Refetch.Text
