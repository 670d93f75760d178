import Refetch.Http.Url.Reader
import Refetch.Wire.Answer
import Refetch.Wire.Outgoing
/-!
# Answers that lead elsewhere

Five statuses say that the answer is to be had at the address in the field `location`.

* `Journey`          a message under way, and what another hop would start from;
* `Journey.message`  the message of a hop;
* `Journey.next`     what follows on an answer: it is delivered, or another hop, or the end.

A hop may turn the message into a plain GET without a body.  What is secret stays with a host; the
address that a hop comes from goes along as `referer`.
-/

namespace Refetch.Wire

open Http (Fields Field Url)

/-- why an attempt came to no response -/
inductive Trouble where
  | refused (r : Refusal)
  /-- the message could not be sent, or was not answered -/
  | unsent
  | astray
  deriving DecidableEq, Repr

structure Journey where
  method : Http.Method
  url : Url
  fields : Fields
  content : Content
  /-- what another hop would carry, if the content can be sent again -/
  again : Option Content
  origin : Option Url
  hops : Nat

namespace Journey

def start (m : Outgoing) : Journey :=
  ⟨m.method, m.url, m.fields, m.content, m.content.again?, none, 0⟩

/-! ## the message of a hop -/

/-- the fields that stay with a host -/
def secretFields : List String :=
  [userField, "cookie", "cookie2", "proxy-authorization", "www-authenticate"]

def originField : String := "referer"

def isSameHost (a b : Url) : Bool := a.host? == b.host? && a.port? == b.port?

/-- the address that others may know a hop to come from -/
def originText (u : Url) : String := u.withoutUser.withoutFragment.text

/-- the header of a hop that comes from `origin` -/
def fieldsFrom (j : Journey) (origin : Url) : Fields :=
  let fs :=
    if isSameHost j.url origin then j.fields
    else j.fields.filter fun f => !secretFields.contains f.name
  if j.url.scheme == "http" && origin.scheme == "https" then fs
  else
    addField (fs.filter fun f => f.name != originField) originField
      (Text.utf8 (originText origin))

def message (j : Journey) : Outgoing :=
  ⟨j.method, j.url, (j.origin.map j.fieldsFrom).getD j.fields, j.content⟩

/-! ## the next hop -/

def leadsOn (s : Http.Status) : Bool := [301, 302, 303, 307, 308].contains s.code

def bodyFields : List String :=
  [typeField, Http.lengthField, "content-encoding", codingField]

/-- the message without a body, under this method -/
def plain (j : Journey) (m : Http.Method) : Journey :=
  { j with
    method := m
    fields := j.fields.filter fun f => !bodyFields.contains f.name
    again := some .none }

/-- the message as this status asks for it -/
def asked (j : Journey) (s : Http.Status) : Journey :=
  if s.code == 303 then j.plain (if j.method == .head then .head else .get)
  else if (s.code == 301 || s.code == 302) && j.method == .post then j.plain .get
  else j

/-- the address that an answer leads to, if a request can name it -/
def destination? (j : Journey) (fs : Fields) : Option Url :=
  (((fs.first? "location").bind Text.ofUtf8?).bind j.url.join?).bind fun u =>
    if u.isSendable then some u.withoutFragment else none

def hopCap : Nat := 10

/-- what follows on an answer -/
inductive Next where
  | arrived
  | onward (j : Journey)
  | lost (t : Trouble)

/-- what follows on an answer with this status and this header -/
def next (j : Journey) (s : Http.Status) (fs : Fields) : Next :=
  if !leadsOn s then .arrived
  else
    let asked := j.asked s
    match asked.again, j.destination? fs with
    | some content, some u =>
      if hopCap ≤ j.hops then .lost .astray
      else if !u.isHttp then .lost (.refused .badAddress)
      else
        .onward { asked with
          url := u, content := content, origin := some j.url, hops := j.hops + 1 }
    | _, _ => .arrived

end Journey

end Refetch.Wire
