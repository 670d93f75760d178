import Refetch.Http.Length
import Refetch.Text.Split
import Refetch.Text.Utf8
/-!
# Where a body ends

On the wire a body has a known length, or comes in chunks of which the last is empty, or ends with
the connection.  The header says which.

* `givenLength fs`        the length that a header gives, said once or many times;
* `endsInChunks fs`       the last coding of the body is that in chunks;
* `Extent`                where a body ends;
* `answerExtent?`         where the body of an answer ends, unless its header contradicts itself;
* `messageExtent`         where the body of a message ends, and the header that says so.
-/

namespace Refetch.Wire

open Http (Fields Field)

def codingField : String := "transfer-encoding"

def chunkedWord : String := "chunked"

def chunkedCoding : Field := ⟨codingField, Text.utf8 chunkedWord⟩

/-! ## lengths -/

def lengthWord? (cs : List Char) : Option Nat :=
  let ds := Text.trim cs
  if ds.isEmpty || !ds.all Text.isDigit || countCap < Text.natOf ds then none
  else some (Text.natOf ds)

/-- the lengths in a list with commas between them -/
def lengthWords? (v : Bytes) : Option (List Nat) :=
  (Http.valueText? v).bind fun cs => (Text.pieces ',' cs).mapM lengthWord?

/-- the one number that all of a list are -/
def agreed? : List Nat → Option Nat
  | [] => none
  | n :: ns => if ns.all (· == n) then some n else none

def givenLength (fs : Fields) : Option Nat :=
  (((fs.values Http.lengthField).mapM lengthWords?).map List.flatten).bind agreed?

/-! ## codings -/

/-- the last word of a list with commas between its words -/
def lastWord (cs : List Char) : List Char := Text.trim ((Text.pieces ',' cs).getLast?.getD [])

/-- the last coding that a value lists is that in chunks -/
def listsChunksLast (v : Bytes) : Bool :=
  match Http.valueText? v with
  | some cs => Http.lower (String.ofList (lastWord cs)) == chunkedWord
  | none => false

/-- the last coding that a header lists is that in chunks -/
def endsInChunks (fs : Fields) : Bool :=
  match (fs.values codingField).getLast? with
  | some v => listsChunksLast v
  | none => false

/-- the header with the coding in chunks after the other codings that it lists -/
def addChunks (fs : Fields) : Fields :=
  match fs.reverse.span fun f => f.name != codingField with
  | (back, f :: front) =>
    (back ++ { f with value := f.value ++ Text.utf8 (", " ++ chunkedWord) } :: front).reverse
  | (_, []) => fs ++ [chunkedCoding]

/-! ## extents -/

/-- where a body ends -/
inductive Extent where
  | nothing
  | length (n : Nat)
  /-- with an empty chunk -/
  | chunks
  /-- with the connection -/
  | connection
  deriving DecidableEq, Repr

/-- the longest body that a header may announce -/
def announcedCap : Nat := 18446744073709551613

/-- the status says that a body cannot follow, whatever the header says -/
def isBodiless (m : Http.Method) (s : Http.Status) : Bool :=
  s.code == 101 || s == .noContent || s == .notModified || m == .head ||
    (m == .connect && s.isSuccess)

/-- where the body of an answer ends; a coding outweighs a length -/
def answerExtent? (m : Http.Method) (s : Http.Status) (fs : Fields) : Option Extent :=
  if isBodiless m s then some .nothing
  else if fs.has codingField then some (if endsInChunks fs then .chunks else .connection)
  else if fs.has Http.lengthField then
    match givenLength fs with
    | some n => if n ≤ announcedCap then some (.length n) else none
    | none => none
  else some .connection

/-- the methods whose messages have no body unless their header says so -/
def isQuiet (m : Http.Method) : Bool := m == .get || m == .head || m == .connect

/-- where the body of a message ends, and the header that says so; `known` is the length of the
body, if that is known beforehand -/
def messageExtent (m : Http.Method) (fs : Fields) (known : Option Nat) : Fields × Extent :=
  if known == some 0 then (fs.filter fun f => f.name != codingField, .nothing)
  else if fs.has codingField then
    let fs := if (givenLength fs).isSome then fs.filter fun f => f.name != Http.lengthField else fs
    (if endsInChunks fs then fs else addChunks fs, .chunks)
  else
    match givenLength fs, known with
    | some n, _ => (fs, .length n)
    | none, some n => (fs, .length n)
    | none, none =>
      if isQuiet m then (fs, .nothing) else (fs ++ [chunkedCoding], .chunks)

end Refetch.Wire
