import Refetch.Text.Numeral
import Refetch.Text.Hidden
/-!
# Values as text

Values are shown to a developer as a name with its fields between braces, or with its parts
between parentheses, and texts in double quotes, with what would be unclear written as an escape:

* `quoted s`             the text in its quotes;
* `record name fields`   a name with named fields;
* `tuple name parts`     a name with unnamed parts;
* `mapText entries`      keys with their values, without a name;
* `optionText v`         a value that may be missing.
-/

namespace Refetch.Text

/-- how a character is written inside the quotes -/
def escape (c : Char) : List Char :=
  if c = '\x22' then ['\x5c', '\x22']
  else if c = '\x5c' then ['\x5c', '\x5c']
  else if c = '\n' then ['\x5c', 'n']
  else if c = '\r' then ['\x5c', 'r']
  else if c = '\t' then ['\x5c', 't']
  else if c = '\x00' then ['\x5c', '0']
  else if isHidden c then ['\x5c', 'u', '\x7b'] ++ hexDigits c.toNat ++ ['\x7d']
  else [c]

def quoted (s : String) : String :=
  String.ofList (['\x22'] ++ s.toList.flatMap escape ++ ['\x22'])

def boolText (b : Bool) : String := if b then "true" else "false"

/-! ## records -/

/-- entries with a colon between key and value and commas between them -/
def entries (es : List (String × String)) : String :=
  ", ".intercalate (es.map fun e => e.1 ++ ": " ++ e.2)

def record (name : String) (fields : List (String × String)) : String :=
  name ++ " \x7b " ++ entries fields ++ " \x7d"

def tuple (name : String) (parts : List String) : String :=
  name ++ "(" ++ ", ".intercalate parts ++ ")"

def mapText (es : List (String × String)) : String := "\x7b" ++ entries es ++ "\x7d"

def optionText : Option String → String
  | some s => tuple "Some" [s]
  | none => "None"

end Refetch.Text
