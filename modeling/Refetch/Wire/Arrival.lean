import Refetch.Wire.Framing
import Refetch.Wire.Outgoing
/-!
# Requests as they arrive

* `Arrived`            a request as it reached the server;
* `Content.sent?`      the bytes that are sent of a content, if they can be;
* `Outgoing.arrive?`   a message as it reaches the server, if it does.
-/

namespace Refetch.Wire

open Http (Fields Field)

/-- a request as it reached the server; its field values are texts -/
structure Arrived where
  method : Http.Method
  target : String
  fields : List (String × String)
  body : Bytes

/-- the chunks of a stream, if none of its items is a failure -/
def allChunks : List StreamItem → Option Bytes
  | [] => some []
  | .ok c :: rest => (allChunks rest).map (c ++ ·)
  | .error _ :: _ => none

/-- the first `n` bytes of a stream, if it has so many before a failure -/
def firstBytes (n : Nat) : List StreamItem → Option Bytes
  | [] => if n = 0 then some [] else none
  | .ok c :: rest =>
    if n ≤ c.length then some (c.take n) else (firstBytes (n - c.length) rest).map (c ++ ·)
  | .error _ :: _ => if n = 0 then some [] else none

/-- the bytes that are sent of a content, if they can be -/
def Content.sent? (extent : Extent) : Content → Option Bytes
  | .none => some []
  | .whole b =>
    match extent with
    | .nothing => some []
    | .length n => if n ≤ b.length then some (b.take n) else Option.none
    | _ => some b
  | .parts ps =>
    match extent with
    | .nothing => some []
    | _ => some (multipartBody boundary ps)
  | .streamed items =>
    match extent with
    | .nothing => some []
    | .length n => firstBytes n items
    | _ => allChunks items

/-- a field that is about the connection and not about the request -/
def isOfConnection (f : Field) : Bool := f.name == "host" || f.name == Http.lengthField

def takenDown (f : Field) : String × String :=
  (f.name, String.ofList (Text.trim (Text.ofUtf8Lossy f.value).toList))

/-- what the request line names: path and query, or only where to connect to -/
def Outgoing.target (m : Outgoing) : String :=
  if m.method == .connect then (m.url.authority.map Http.Authority.text).getD ""
  else m.url.target

/-- the server waits for bytes that never come -/
def keepsWaiting (fs : Fields) (extent : Extent) : Bool :=
  match extent, givenLength fs with
  | .nothing, some n => n != 0
  | _, _ => false

/-- a message as it reaches the server, if it does -/
def Outgoing.arrive? (m : Outgoing) : Option Arrived :=
  let (fs, extent) := messageExtent m.method m.fields m.content.knownLength
  if keepsWaiting fs extent then none
  else
    (m.content.sent? extent).map fun body =>
      let fields := Fields.sortedByName (fs.filter fun f => !isOfConnection f)
      ⟨m.method, m.target, fields.map takenDown, body⟩

end Refetch.Wire
