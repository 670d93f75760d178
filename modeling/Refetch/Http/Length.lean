import Refetch.Text.Split
import Refetch.Text.Numeral
import Refetch.Http.Token
import Refetch.Http.Status
import Refetch.Http.Fields
/-!
# Body lengths that a header promises

Only the first `content-length` field counts, and only if its value is a plain decimal number
that fits a 64-bit word.  A malformed value promises nothing; so does the header of a response
that cannot carry a body.

* `parseLength`       a field value, as a length;
* `mayHaveBody`       the response can carry a body;
* `declaredLength`    what the header says;
* `expectedLength`    what the response promises;
* `exceeds`           a promise above a ceiling.
-/

namespace Refetch.Http

/-- the value of a length field: digits, with blanks around them -/
def parseLength (v : List Char) : Option Nat :=
  let ds := Text.trim v
  if ds.isEmpty then none
  else if !ds.all Text.isDigit then none
  else if Text.natOf ds ≤ countCap then some (Text.natOf ds) else none

def lengthField : String := "content-length"

def declaredLength (fs : Fields) : Option Nat :=
  ((fs.first? lengthField).bind valueText?).bind parseLength

/-- a response to this method with this status can carry a body -/
def mayHaveBody (m : Method) (s : Status) : Bool :=
  m != .head && s != .noContent && s != .notModified && !s.isInformational

/-- the number of body bytes that a response promises -/
def expectedLength (m : Method) (s : Status) (fs : Fields) : Option Nat :=
  if mayHaveBody m s then declaredLength fs else none

/-- a known length above a ceiling -/
def exceeds (expected ceiling : Option Nat) : Bool :=
  match expected, ceiling with
  | some n, some c => c < n
  | _, _ => false

end Refetch.Http
