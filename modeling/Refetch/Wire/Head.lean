import Refetch.Http.Fields
import Refetch.Http.Status
import Refetch.Text.Numeral
/-!
# Heads of answers

An answer begins with a status line and the lines of its header, up to an empty one.

* `cutLine? bs`       the first line and the bytes behind it;
* `readFields? bs`    the header lines up to an empty one, and the bytes behind them;
* `readHead? bs`      the head of an answer, and the bytes behind it;
* `trimmed v`         a field value without the blanks around it.
-/

namespace Refetch.Wire

open Http (Fields Field)

/-! ## lines -/

def lineFeed : UInt8 := 10
def carriageReturn : UInt8 := 13

/-- the first line with what ends it but the line feed, and the bytes behind it -/
def cutLine? (bs : Bytes) : Option (Bytes × Bytes) :=
  match bs.dropWhile (· != lineFeed) with
  | [] => none
  | _ :: rest => some (bs.takeWhile (· != lineFeed), rest)

theorem length_of_cutLine? {bs line rest : Bytes} (h : cutLine? bs = some (line, rest)) :
    rest.length < bs.length := by
  have hs := (List.dropWhile_sublist (· != lineFeed) (l := bs)).length_le
  unfold cutLine? at h
  split at h
  · exact absurd h (by simp)
  · rename_i he
    cases h
    rw [he] at hs
    exact Nat.lt_of_succ_le hs

/-- a line without its carriage return, which has to be there if the line is `strict` -/
def lineText? (strict : Bool) (line : Bytes) : Option Bytes :=
  if line.getLast? == some carriageReturn then some line.dropLast
  else if strict then none
  else some line

/-! ## fields -/

def isLineBlank (b : UInt8) : Bool := b == 32 || b == 9

def trimmed (v : Bytes) : Bytes :=
  ((v.dropWhile isLineBlank).reverse.dropWhile isLineBlank).reverse

/-- the characters that bytes stand for one by one -/
def latin (b : Bytes) : String := String.ofList (b.map fun x => Char.ofNat x.toNat)

def field? (line : Bytes) : Option Field :=
  match line.span fun b => b != 58 with
  | (name, _ :: value) => Field.ofPair? (latin name, trimmed value)
  | (_, []) => none

/-- the header lines up to an empty one, and the bytes behind them -/
def readFields? (strict : Bool) (bs : Bytes) : Option (Fields × Bytes) :=
  match h : cutLine? bs with
  | none => none
  | some (line, rest) =>
    have : rest.length < bs.length := length_of_cutLine? h
    match lineText? strict line with
    | none => none
    | some [] => some ([], rest)
    | some text =>
      match field? text, readFields? strict rest with
      | some f, some (fs, rest) => some (f :: fs, rest)
      | _, _ => none
termination_by bs.length

theorem length_of_readFields? {strict : Bool} {bs rest : Bytes} {fs : Fields}
    (h : readFields? strict bs = some (fs, rest)) : rest.length < bs.length := by
  fun_induction readFields? strict bs generalizing fs with
  | case1 => simp at h
  | case2 => simp at h
  | case3 bs line r hc =>
    cases h
    exact length_of_cutLine? hc
  | case4 bs line r _ shorter text _ _ f fs' r' hf _ ih =>
    cases h
    exact Nat.lt_trans (ih hf) shorter
  | case5 => simp at h

/-! ## heads -/

structure Head where
  status : Http.Status
  fields : Fields

def versionMarks : List Bytes := ["HTTP/1.0 ".toUTF8.toList, "HTTP/1.1 ".toUTF8.toList]

/-- the status in a status line -/
def statusOf? (line : Bytes) : Option Http.Status :=
  let code := (line.drop 9).take 3
  let behind := line.drop 12
  let digits := code.map fun b => Char.ofNat b.toNat
  if versionMarks.contains (line.take 9) && digits.length == 3 && digits.all Text.isDigit &&
      (behind.isEmpty || (behind.head? == some 32 && behind.all Http.isValueByte)) then
    Http.Status.ofCode? (Text.natOf digits)
  else none

/-- the bytes without the empty lines at their start -/
def skipEmptyLines : Bytes → Bytes
  | 13 :: 10 :: bs => skipEmptyLines bs
  | 10 :: bs => skipEmptyLines bs
  | bs => bs

theorem length_skipEmptyLines (bs : Bytes) : (skipEmptyLines bs).length ≤ bs.length := by
  fun_induction skipEmptyLines bs with
  | case1 bs ih => simp only [List.length_cons]; omega
  | case2 bs ih => simp only [List.length_cons]; omega
  | case3 => exact Nat.le_refl _

/-- the head of an answer, and the bytes behind it -/
def readHead? (bs : Bytes) : Option (Head × Bytes) :=
  match cutLine? (skipEmptyLines bs) with
  | none => none
  | some (line, rest) =>
    match (lineText? false line).bind statusOf?, readFields? false rest with
    | some s, some (fs, rest) => some (⟨s, fs⟩, rest)
    | _, _ => none

theorem length_of_readHead? {bs rest : Bytes} {h : Head}
    (e : readHead? bs = some (h, rest)) : rest.length < bs.length := by
  unfold readHead? at e
  split at e
  · exact absurd e (by simp)
  · rename_i line r hc
    split at e
    · rename_i hf
      cases e
      have h1 := length_of_readFields? hf
      have h2 := length_of_cutLine? hc
      have h3 := length_skipEmptyLines bs
      omega
    · exact absurd e (by simp)

end Refetch.Wire
