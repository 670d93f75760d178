import Refetch.Payload
import Refetch.Text.Coding
import Refetch.Http.Token
import Refetch.Http.Url.Escapes
/-!
# Form bodies

Keys and values are sent in the form `application/x-www-form-urlencoded`: a space is a plus sign,
letters, digits and four marks stay, every other byte is escaped.  The parts of a multipart body
stand between boundaries, each with a head that names it; the last boundary is closed by two more
dashes.  A body without parts is empty.

* `formText pairs`   keys and values in one text;
* `partHead`         the head of a part;
* `multipartBody`    all parts, under a boundary;
* `multipartLength`  its length, which does not depend on the boundary;
* `multipartType`    the type of such a body.
-/

namespace Refetch.Wire

open Text (utf8)

def keepsInForm (c : Char) : Bool := Http.isAlphanum c || ['*', '-', '.', '_'].contains c

def formByte (b : UInt8) : List Char :=
  if b == 32 then ['+'] else Text.percentUnless keepsInForm b

def formWord (s : String) : List Char := (utf8 s).flatMap formByte

def formPair (p : String × String) : List Char := formWord p.1 ++ '=' :: formWord p.2

def formText (ps : List (String × String)) : String :=
  String.ofList (['&'].intercalate (ps.map formPair))

def formType : String := "application/x-www-form-urlencoded"

/-! ## multipart -/

def nameStops : List Char := Http.Url.pathStops ++ ['/', '%']

/-- the name of a part, in quotes if nothing in it needs an escape, or if it is one byte -/
def partName (name : String) : String :=
  let escaped := Text.percentEncode (Http.Url.keeps nameStops) name
  if escaped == name || name.utf8ByteSize == 1 then "name=\x22" ++ escaped ++ "\x22"
  else "name*=utf-8''" ++ escaped

/-- a character of a file name, behind a backslash if it could end it -/
def fileNameChar (c : Char) : List Char :=
  if c = '\x5c' || c = '\x22' || c = '\r' || c = '\n' then ['\x5c', c] else [c]

def partFileName : Option String → String
  | some f => "; filename=\x22" ++ String.ofList (f.toList.flatMap fileNameChar) ++ "\x22"
  | none => ""

def partType : Option String → String
  | some t => "\r\nContent-Type: " ++ t
  | none => ""

def partHead (p : Part) : String :=
  "Content-Disposition: form-data; " ++ partName p.name ++ partFileName p.fileName ++
    partType p.contentType

/-- a part behind its boundary -/
def partBody (boundary : String) (p : Part) : Bytes :=
  utf8 ("--" ++ boundary ++ "\r\n" ++ partHead p ++ "\r\n\r\n") ++ p.data ++ utf8 "\r\n"

def multipartBody (boundary : String) (ps : List Part) : Bytes :=
  if ps.isEmpty then []
  else ps.flatMap (partBody boundary) ++ utf8 ("--" ++ boundary ++ "--\r\n")

/-- the number of characters in the boundaries that are sent -/
def boundaryLength : Nat := 67

/-- the number of bytes in a multipart body under the boundaries that are sent -/
def multipartLength (ps : List Part) : Nat :=
  if ps.isEmpty then 0
  else (multipartBody "" ps).length + (ps.length + 1) * boundaryLength

def multipartType (boundary : String) : String := "multipart/form-data; boundary=" ++ boundary

end Refetch.Wire
