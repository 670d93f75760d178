import Refetch.Text.Coding
import Refetch.Wire.Head
/-!
# Bodies in chunks

Each chunk has its length before it, in hexadecimal digits on a line of its own, and a line end
behind it; words behind the length say nothing.  An empty chunk is the last one, and header lines
may follow it.

* `chunk b`           some bytes as a chunk;
* `lastChunk`         the end of a body;
* `readChunks bs`     the bytes of a body, and whether it came to its end.
-/

namespace Refetch.Wire

def lineEnd : Bytes := [carriageReturn, lineFeed]

/-- some bytes as a chunk; no bytes are no chunk -/
def chunk (b : Bytes) : Bytes :=
  if b.isEmpty then []
  else Text.utf8 (Text.hexText b.length) ++ lineEnd ++ b ++ lineEnd

def lastChunk : Bytes := [48] ++ lineEnd ++ lineEnd

def isHexByte (b : UInt8) : Bool := (Text.hexByte? b).isSome

/-- the length on the line of a chunk -/
def chunkLength? (line : Bytes) : Option Nat :=
  let digits := line.takeWhile isHexByte
  let behind := (line.dropWhile isHexByte).dropWhile isLineBlank
  let n := Text.natOfHex (digits.map fun b => Char.ofNat b.toNat)
  if digits.isEmpty || countCap < n || line.contains carriageReturn then none
  else if behind.isEmpty || behind.head? == some 59 then some n
  else none

/-- the length of the next chunk, and the bytes behind its line -/
def readLength? (bs : Bytes) : Option (Nat × Bytes) :=
  match cutLine? bs with
  | none => none
  | some (line, rest) =>
    match (lineText? true line).bind chunkLength? with
    | some n => some (n, rest)
    | none => none

theorem length_of_readLength? {bs rest : Bytes} {n : Nat}
    (h : readLength? bs = some (n, rest)) : rest.length < bs.length := by
  unfold readLength? at h
  split at h
  · exact absurd h (by simp)
  · rename_i hc
    split at h
    · cases h
      exact length_of_cutLine? hc
    · exact absurd h (by simp)

/-- the bytes of a body in chunks, and whether it came to its end -/
def readChunks (bs : Bytes) : Bytes × Bool :=
  match h : readLength? bs with
  | none => ([], false)
  | some (0, rest) => ([], (readFields? true rest).isSome)
  | some (n + 1, rest) =>
    have : rest.length < bs.length := length_of_readLength? h
    if (rest.drop (n + 1)).take 2 == lineEnd then
      let later := readChunks (rest.drop (n + 3))
      (rest.take (n + 1) ++ later.1, later.2)
    else (rest.take (n + 1), false)
termination_by bs.length
decreasing_by
  simp only [List.length_drop]
  omega

end Refetch.Wire
