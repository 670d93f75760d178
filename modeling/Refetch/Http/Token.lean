/-!
# Tokens and request methods

Method names and field names are tokens: one or more letters, digits and some marks, all ASCII.

* `isToken s`           a token;
* `lower s`             the text with its ASCII letters in lower case;
* `Method`              a method, by its name, letter case kept;
* `Method.ofText?`      reads a token as a method;
* `Method.idempotent`   repeating the request has the effect of making it once.

Idempotent are exactly six methods, so a name in other letters and an extension method are not.
-/

namespace Refetch.Http

def isAlphanum (c : Char) : Bool :=
  let n := c.toNat
  (48 ≤ n && n ≤ 57) || (65 ≤ n && n ≤ 90) || (97 ≤ n && n ≤ 122)

def tokenMarks : List Char :=
  ['!', '\x23', '$', '%', '&', '\x27', '*', '+', '-', '.', '^', '_', '\x60', '|', '~']

def isTokenChar (c : Char) : Bool := isAlphanum c || tokenMarks.contains c

def isToken (s : String) : Bool := !s.isEmpty && s.toList.all isTokenChar

/-- an ASCII letter in lower case, any other character as it is -/
def lowerChar (c : Char) : Char :=
  if 65 ≤ c.toNat && c.toNat ≤ 90 then Char.ofNat (c.toNat + 32) else c

def lower (s : String) : String := String.ofList (s.toList.map lowerChar)

/-! ## methods -/

structure Method where
  name : String
  deriving DecidableEq, Repr

namespace Method

def get : Method := ⟨"GET"⟩
def head : Method := ⟨"HEAD"⟩
def post : Method := ⟨"POST"⟩
def connect : Method := ⟨"CONNECT"⟩
def put : Method := ⟨"PUT"⟩
def delete : Method := ⟨"DELETE"⟩
def options : Method := ⟨"OPTIONS"⟩
def trace : Method := ⟨"TRACE"⟩

def ofText? (s : String) : Option Method := if isToken s then some ⟨s⟩ else none

def idempotents : List Method := [get, head, put, delete, options, trace]

/-- repeating the request has the effect of making it once -/
def idempotent (m : Method) : Bool := idempotents.contains m

end Method

end Refetch.Http
