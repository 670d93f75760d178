import Refetch.Http.Length
import Refetch.Http.Url.Sendable
import Refetch.Message
import Refetch.Text.Coding
import Refetch.Wire.Form
import Refetch.Wire.MediaType
/-!
# Requests on their way to the wire

Every attempt builds its own message from the request:

* `Refusal`     why no message can be built;
* `Content`     what a message carries;
* `Outgoing`    the message;
* `build`       the message of a request, and the cell of its stream payload afterwards.

A type of the payload is written into the header only where the caller gave none, but that of a
multipart payload always.  User name and password leave the address for the header.  A stream
payload is taken by the first attempt; any later one is refused.
-/

namespace Refetch.Wire

open Http (Fields Field)

/-- why no message can be built -/
inductive Refusal where
  | badType
  | badPartType
  /-- the stream payload has been taken by an earlier attempt -/
  | alreadyTaken
  | badAddress
  deriving DecidableEq, Repr

def Refusal.text : Refusal → String
  | .badType => "failed to parse header value"
  | .badPartType => "builder error"
  | .alreadyTaken => "stream payload was already consumed by an earlier attempt"
  | .badAddress => "builder error"

/-! ## contents -/

inductive Content where
  | none
  | whole (b : Bytes)
  | parts (ps : List Part)
  | streamed (items : List StreamItem)

namespace Content

/-- the number of bytes, if it is known before they are sent -/
def knownLength : Content → Option Nat
  | .none => some 0
  | .whole b => some b.length
  | .parts ps => if ps.isEmpty then some 0 else Option.none
  | .streamed _ => Option.none

/-- the content for another message, if it can be sent again -/
def again? : Content → Option Content
  | .none => some .none
  | .whole b => some (.whole b)
  | .parts ps => if ps.isEmpty then some .none else Option.none
  | .streamed _ => Option.none

end Content

/-! ## messages -/

/-- a message on its way to the wire -/
structure Outgoing where
  method : Http.Method
  url : Http.Url
  fields : Fields
  content : Content

def typeField : String := "content-type"
def acceptField : String := "accept"
def userField : String := "authorization"

/-- the word that stands for the boundary of multipart bodies -/
def boundary : String := "BOUNDARY"

/-- a type as a field value, if it can be one -/
def typeValue? (t : String) : Option Bytes :=
  if (Text.utf8 t).all Http.isValueByte then some (Text.utf8 t) else none

def addField (fs : Fields) (name : String) (v : Bytes) : Fields := fs ++ [⟨name, v⟩]

/-- the header with one more field, unless there is one of its name -/
def addMissing (fs : Fields) (name : String) (v : Bytes) : Fields :=
  if fs.has name then fs else addField fs name v

/-- the header with the type of a blob, unless there is a type already -/
def blobFields (fs : Fields) : Option String → Except Refusal Fields
  | some t =>
    if fs.has typeField then .ok fs
    else
      match typeValue? t with
      | some v => .ok (addField fs typeField v)
      | none => .error .badType
  | none => .ok fs

/-- a part with its type in normal form -/
def wirePart (p : Part) : Except Refusal Part :=
  match p.contentType with
  | some t =>
    match mediaType? t with
    | some t => .ok { p with contentType := some t }
    | none => .error .badPartType
  | none => .ok p

/-- all parts with their types in normal form, or the first refusal -/
def wireParts : List Part → Except Refusal (List Part)
  | [] => .ok []
  | p :: ps =>
    match wirePart p with
    | .error e => .error e
    | .ok p => (wireParts ps).map (p :: ·)

/-- the header with the type and the length of a multipart body -/
def partsFields (fs : Fields) (ps : List Part) : Fields :=
  addField (addField fs typeField (Text.utf8 (multipartType boundary)))
    Http.lengthField (Text.utf8 (Text.natText (multipartLength ps)))

/-- what a payload adds to a header, and the content that it makes -/
def payloadContent (fs : Fields) (items : Option (List StreamItem)) :
    Payload → Except Refusal (Fields × Content)
  | .empty => .ok (fs, .none)
  | .text s => .ok (fs, .whole (Text.utf8 s))
  | .bytes b => .ok (fs, .whole b)
  | .form ps =>
    .ok (addMissing fs typeField (Text.utf8 formType), .whole (Text.utf8 (formText ps)))
  | .blob t b => (blobFields fs t).map fun fs => (fs, .whole b)
  | .multipart ps => (wireParts ps).map fun ps => (partsFields fs ps, .parts ps)
  | .stream _ =>
    match items with
    | some items => .ok (fs, .streamed items)
    | none => .error .alreadyTaken

/-! ## users -/

/-- a piece of an address without its escapes, if that is a text -/
def unescaped? (s : String) : Option String := Text.ofUtf8? (Text.percentDecode (Text.utf8 s))

/-- user name and password in one word, unless there is neither; a password that is no text is
none -/
def credentials? (a : Http.Authority) : Option String :=
  let password := (unescaped? a.password).getD ""
  match unescaped? a.user with
  | some user =>
    if user.isEmpty && password.isEmpty then none else some (user ++ ":" ++ password)
  | none => none

def userValue (words : String) : Bytes :=
  Text.utf8 ("Basic " ++ String.ofList (Text.base64 (Text.utf8 words)))

/-- the message with user name and password in its header instead of its address -/
def Outgoing.withUser (m : Outgoing) : Outgoing :=
  match m.url.authority.bind credentials? with
  | some words =>
    { m with url := m.url.withoutUser, fields := addMissing m.fields userField (userValue words) }
  | none => m

/-- the message, if its address can be named by a request -/
def Outgoing.checked (m : Outgoing) : Except Refusal Outgoing :=
  if m.url.isHttp && m.url.isSendable then .ok m else .error .badAddress

/-- the message of a request with these items of its stream payload -/
def message (r : Request) (items : Option (List StreamItem)) : Except Refusal Outgoing :=
  match payloadContent r.fields items r.payload with
  | .error e => .error e
  | .ok (fs, c) =>
    let fs := addMissing fs acceptField (Text.utf8 "*/*")
    (Outgoing.withUser ⟨r.method, r.url, fs, c⟩).checked

/-- the message of a request, and the cell of its stream payload afterwards -/
def build (r : Request) (cell : SinglePass (List StreamItem)) :
    Except Refusal Outgoing × SinglePass (List StreamItem) :=
  match r.payload with
  | .stream _ => (message r cell.take.1, cell.take.2)
  | _ => (message r none, cell)

end Refetch.Wire
