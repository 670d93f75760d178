import Refetch.Config
import Refetch.Json.Value
/-!
# Configuration documents

A configuration is written as one JSON object with its four settings in order, and read from an
object with any of them in any order, members of other names between them, or from a list of the
first values in order.

* `Key`                  the settings by their names;
* `Config.document`      the written form;
* `Config.ofDocument`    reads a document, or says what is wrong with it first.

A setting that occurs twice is a problem as soon as its second name is read.
-/

namespace Refetch

open Json (Problem skipBlank)

namespace Config

/-- the names of the settings -/
inductive Key where
  | budget
  | delayMs
  | allowUnsafe
  | ceiling
  deriving DecidableEq, Repr

namespace Key

def all : List Key := [.budget, .delayMs, .allowUnsafe, .ceiling]

def name : Key → String
  | .budget => "retry_budget"
  | .delayMs => "retry_delay_ms"
  | .allowUnsafe => "allow_unsafe_retry"
  | .ceiling => "max_buffered_bytes_per_attempt"

def ofName? (name : List Char) : Option Key := all.find? fun k => k.name.toList == name

end Key

/-! ## writing -/

/-- the written form of one setting's value -/
def valueText (c : Config) : Key → List Char
  | .budget => Text.natDigits c.budget.toNat
  | .delayMs => Text.natDigits c.delayMs.toNat
  | .allowUnsafe => if c.allowUnsafe then ['t', 'r', 'u', 'e'] else ['f', 'a', 'l', 's', 'e']
  | .ceiling =>
    match c.ceiling with
    | some n => Text.natDigits n.toNat
    | none => ['n', 'u', 'l', 'l']

/-- the written form of one setting -/
def memberText (c : Config) (k : Key) : List Char :=
  '\x22' :: (k.name.toList ++ '\x22' :: ':' :: c.valueText k)

def documentChars (c : Config) : List Char :=
  '\x7b' :: (c.memberText .budget ++ ',' :: (c.memberText .delayMs ++
    ',' :: (c.memberText .allowUnsafe ++ ',' :: (c.memberText .ceiling ++ ['\x7d']))))

def document (c : Config) : String := String.ofList c.documentChars

/-! ## reading -/

/-- one setting's value, put in its place -/
def readValue (c : Config) (k : Key) (cs : List Char) : Except Problem (Config × List Char) :=
  match k with
  | .budget => (Json.readNatural (UInt32.size - 1) cs).map fun r =>
      ({ c with budget := UInt32.ofNat r.1 }, r.2)
  | .delayMs => (Json.readNatural (UInt64.size - 1) cs).map fun r =>
      ({ c with delayMs := UInt64.ofNat r.1 }, r.2)
  | .allowUnsafe => (Json.readBool cs).map fun r => ({ c with allowUnsafe := r.1 }, r.2)
  | .ceiling => (Json.readOptionalNatural (UInt64.size - 1) cs).map fun r =>
      ({ c with ceiling := r.1.map UInt64.ofNat }, r.2)

def readColon (cs : List Char) : Except Problem (List Char) :=
  match skipBlank cs with
  | [] => .error .truncated
  | ':' :: r => .ok r
  | _ => .error .malformed

/-- one member after its opening quote; `seen` are the settings read so far -/
def readMember (c : Config) (seen : List Key) (cs : List Char) :
    Except Problem (Config × List Key × List Char) :=
  match Json.readString cs with
  | .error p => .error p
  | .ok (name, r) =>
    match Key.ofName? name with
    | some k =>
      if seen.contains k then .error .mistyped
      else
        match readColon r with
        | .error p => .error p
        | .ok r => (c.readValue k r).map fun q => (q.1, k :: seen, q.2)
    | none =>
      match readColon r with
      | .error p => .error p
      | .ok r => (Json.skipValue r).map fun rest => (c, seen, rest)

/-- the members of an object up to its end, read with so much fuel -/
def readMembersWith : Nat → Config → List Key → List Char → Except Problem (Config × List Char)
  | 0, _, _, _ => .error .malformed
  | n + 1, c, seen, cs =>
    match skipBlank cs with
    | [] => .error .truncated
    | '\x22' :: r =>
      match c.readMember seen r with
      | .error p => .error p
      | .ok (c, seen, r) =>
        match skipBlank r with
        | [] => .error .truncated
        | ',' :: r => readMembersWith n c seen r
        | '\x7d' :: r => .ok (c, r)
        | _ => .error .malformed
    | _ => .error .malformed

def readObject (cs : List Char) : Except Problem (Config × List Char) :=
  match skipBlank cs with
  | [] => .error .truncated
  | '\x7d' :: r => .ok ({}, r)
  | r => readMembersWith (cs.length + 1) {} [] r

/-- the values of a list up to its end, for the keys that are left; `first` before any value -/
def readElements (c : Config) (first : Bool) (ks : List Key) (cs : List Char) :
    Except Problem (Config × List Char) :=
  match ks with
  | [] =>
    match skipBlank cs with
    | [] => .error .truncated
    | ']' :: r => .ok (c, r)
    | _ => .error .malformed
  | k :: ks =>
    match skipBlank cs with
    | [] => .error .truncated
    | ']' :: r => .ok (c, r)
    | d :: r =>
      if first then
        match c.readValue k (d :: r) with
        | .error p => .error p
        | .ok (c, r) => readElements c false ks r
      else if d = ',' then
        match skipBlank r with
        | [] => .error .truncated
        | ']' :: _ => .error .malformed
        | r =>
          match c.readValue k r with
          | .error p => .error p
          | .ok (c, r) => readElements c false ks r
      else .error .malformed

/-- a whole document, with what follows it -/
def readDocument (cs : List Char) : Except Problem (Config × List Char) :=
  match skipBlank cs with
  | [] => .error .truncated
  | '\x7b' :: r => readObject r
  | '[' :: r => readElements {} true Key.all r
  | cs => .error (Json.wrongValue cs)

def ofChars (cs : List Char) : Except Problem Config :=
  match readDocument cs with
  | .error p => .error p
  | .ok (c, rest) => if (skipBlank rest).isEmpty then .ok c else .error .malformed

/-- a document read as a configuration, or its first problem -/
def ofDocument (s : String) : Except Problem Config := ofChars s.toList

end Config

end Refetch
