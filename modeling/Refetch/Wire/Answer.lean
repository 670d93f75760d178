import Refetch.Message
import Refetch.Wire.Chunked
import Refetch.Wire.Framing
/-!
# Answers of a server

A server closes the connection after each answer.

* `Served`             one answer of the server;
* `readBody`           what a client reads of a body, and whether it ended as it should;
* `Served.response?`   an answer as a response, if it is one.

An answer with an interim status is none; the answer proper follows it on the same connection.
-/

namespace Refetch.Wire

open Http (Fields Field)

/-- how the end of a body is marked -/
inductive Framing where
  | length
  | chunked
  | close
  deriving DecidableEq, Repr

structure Served where
  status : Http.Status
  fields : Fields
  body : Bytes
  framing : Framing
  /-- the body ends before its mark says so -/
  cut : Bool

namespace Served

/-- the field that marks the end of the body -/
def framingFields (s : Served) : Fields :=
  match s.framing with
  | .length =>
    let n := if s.cut then s.body.length + 5 else s.body.length
    [⟨Http.lengthField, Text.utf8 (Text.natText n)⟩]
  | .chunked => [chunkedCoding]
  | .close => []

def head (s : Served) : Head :=
  ⟨s.status, (s.fields ++ s.framingFields).map fun f => { f with value := trimmed f.value }⟩

/-- what is on the wire behind the head -/
def wireBody (s : Served) : Bytes :=
  match s.framing with
  | .chunked => chunk s.body ++ if s.cut then [] else lastChunk
  | _ => s.body

end Served

/-- what a client reads of a body, and whether it ended as it should -/
def readBody (bs : Bytes) : Extent → Bytes × Bool
  | .nothing => ([], true)
  | .length n => (bs.take n, n ≤ bs.length)
  | .chunks => readChunks bs
  | .connection => (bs, true)

/-- the most header lines that a client reads; the one about the connection counts -/
def lineCap : Nat := 100

def connectionField : String := "connection"

def isInterim (s : Http.Status) : Bool := s.isInformational && s.code != 101

/-- a head and the bytes behind it as a response to this method -/
def responseOf? (m : Http.Method) (h : Head) (bs : Bytes) : Option (Response (Bytes × Bool)) :=
  (answerExtent? m h.status h.fields).map fun e =>
    ⟨h.status.isSuccess, h.status, h.fields.filter fun f => f.name != connectionField,
      if Http.mayHaveBody m h.status then some (readBody bs e) else none⟩

/-- the first bytes as a response to this method, interim ones passed over -/
def readResponse? (m : Http.Method) (bs : Bytes) : Option (Response (Bytes × Bool)) :=
  match h : readHead? bs with
  | none => none
  | some (head, rest) =>
    have : rest.length < bs.length := length_of_readHead? h
    if isInterim head.status then readResponse? m rest else responseOf? m head rest
termination_by bs.length

def Served.response? (s : Served) (m : Http.Method) : Option (Response (Bytes × Bool)) :=
  if lineCap ≤ s.head.fields.length then none
  else if isInterim s.status then readResponse? m s.wireBody
  else responseOf? m s.head s.wireBody

end Refetch.Wire
