import Refetch.Http.Length
import Refetch.Http.Url
import Refetch.Payload
import Refetch.Text.Record
/-!
# Requests and responses

* `Request`            method, address, header and payload, the same on every attempt;
* `Response σ`         what a transport gives back for one attempt; `σ` is the type of its bodies;
* `Response.ofBody`, `Response.ofStatus`   the two ways to start one;
* `Response.inspect`   the response as a record.
-/

namespace Refetch

structure Request where
  method : Http.Method
  url : Http.Url
  fields : Http.Fields := []
  payload : Payload := .empty
  deriving DecidableEq, Repr

/-- what a transport gives back for one attempt -/
structure Response (σ : Type) where
  /-- the transport takes the response for a success -/
  ok : Bool
  status : Http.Status
  fields : Http.Fields
  body : Option σ

namespace Response

variable {σ : Type}

def ofBody (body : σ) : Response σ := ⟨true, .ok, [], some body⟩

/-- a response without a body, a success if its status says so -/
def ofStatus (s : Http.Status) : Response σ := ⟨s.isSuccess, s, [], none⟩

def withFields (r : Response σ) (fs : Http.Fields) : Response σ := { r with fields := fs }
def withBody (r : Response σ) (body : σ) : Response σ := { r with body := some body }

/-- the body length that the response promises to a request with this method -/
def expectedLength (r : Response σ) (m : Http.Method) : Option Nat :=
  Http.expectedLength m r.status r.fields

end Response

/-! ## responses shown to a developer -/

/-- a byte of a field value, shown as itself or escaped -/
def Http.inspectByte (b : UInt8) : List Char :=
  if b == 34 then ['\x5c', '\x22']
  else if Http.isTextByte b then [Char.ofNat b.toNat]
  else ['\x5c', 'x'] ++ Text.hexDigits b.toNat

def Http.inspectValue (v : Bytes) : String :=
  String.ofList (['\x22'] ++ v.flatMap Http.inspectByte ++ ['\x22'])

/-- a header, the fields of one name together -/
def Http.Fields.inspect (fs : Http.Fields) : String :=
  Text.mapText (Http.Fields.grouped fs |>.map fun f =>
    (Text.quoted f.name, Http.inspectValue f.value))

def Response.inspect {σ : Type} (r : Response σ) : String :=
  Text.record "ResponseDescriptor" [
    ("ok", Text.boolText r.ok),
    ("status", Text.natText r.status.code),
    ("headers", Http.Fields.inspect r.fields),
    ("has_body", Text.boolText r.body.isSome)]

end Refetch
