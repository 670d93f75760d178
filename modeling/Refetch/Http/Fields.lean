import Refetch.Bytes
import Refetch.Http.Token
/-!
# Header fields

A header is a list of fields, a field is a name in lower case with a value in bytes.  A name may
occur many times; its values stay in their order.

* `Fields.ofList?`     names in any letter case, read as fields;
* `Fields.first?`      the first value of a name;
* `Fields.values`      all values of a name;
* `Fields.sortedByName`, `Fields.grouped`   the two orders in which a header is shown;
* `valueText?`         a value that is plain text.
-/

namespace Refetch.Http

structure Field where
  name : String
  value : Bytes
  deriving DecidableEq, Repr

abbrev Fields := List Field

/-- a byte that a field value may hold: a tab, or anything but the controls -/
def isValueByte (b : UInt8) : Bool := b == 9 || (32 ≤ b && b != 127)

/-- a byte of plain text: a tab, or visible ASCII -/
def isTextByte (b : UInt8) : Bool := b == 9 || (32 ≤ b && b < 127)

/-- a value whose bytes are all plain text, as that text -/
def valueText? (v : Bytes) : Option (List Char) :=
  if v.all isTextByte then some (v.map fun b => Char.ofNat b.toNat) else none

/-- a name in any letter case and a value, as a field -/
def Field.ofPair? (p : String × Bytes) : Option Field :=
  if isToken p.1 && p.2.all isValueByte then some ⟨lower p.1, p.2⟩ else none

namespace Fields

/-- names in any letter case, with their values, as a header -/
def ofList? (ps : List (String × Bytes)) : Option Fields := ps.mapM Field.ofPair?

def values (fs : Fields) (name : String) : List Bytes :=
  (fs.filter fun f => f.name == name).map Field.value

def first? (fs : Fields) (name : String) : Option Bytes :=
  (fs.find? fun f => f.name == name).map Field.value

def has (fs : Fields) (name : String) : Bool := fs.any fun f => f.name == name

/-- the names, each once, in the order of their first field -/
def names (fs : Fields) : List String :=
  fs.foldl (fun ns f => if ns.contains f.name then ns else ns ++ [f.name]) []

/-- the fields of one name together, names in the order of their first field -/
def grouped (fs : Fields) : Fields :=
  fs.names.flatMap fun n => fs.filter fun f => f.name == n

/-- the fields in the order of their names, those of one name in their own order -/
def sortedByName (fs : Fields) : Fields :=
  fs.mergeSort fun a b => !(b.name < a.name)

end Fields

end Refetch.Http
