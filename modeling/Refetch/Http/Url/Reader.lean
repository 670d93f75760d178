import Refetch.Http.Url
import Refetch.Http.Token
import Refetch.Http.Url.Escapes
/-!
# Reading addresses

* `Url.ofText? s`     a text as an address of its own;
* `Url.join? base s`  a text as an address or as a reference from the address `base`, whose path
                      has segments.

Blanks and controls around the text do not count, nor do tabs and line breaks in it.  When the
scheme knows domain names, a backslash is as good as a slash.
-/

namespace Refetch.Http.Url

open Text (piecesBy splitLast?)

/-! ## the text -/

def isControlOrSpace (c : Char) : Bool := c.toNat ≤ 32

def isTabOrBreak (c : Char) : Bool := c == '\t' || c == '\n' || c == '\r'

/-- the text without controls at its ends and without tabs and line breaks -/
def cleaned (cs : List Char) : List Char :=
  let body := cs.dropWhile isControlOrSpace
  ((body.reverse.dropWhile isControlOrSpace).reverse).filter fun c => !isTabOrBreak c

def isLetter (c : Char) : Bool := isAlphanum c && !Text.isDigit c

def isSchemeChar (c : Char) : Bool := isAlphanum c || c == '+' || c == '-' || c == '.'

def splitScheme? (cs : List Char) : Option (String × List Char) :=
  match cs.dropWhile isSchemeChar with
  | ':' :: rest =>
    if (cs.takeWhile isSchemeChar).head?.any isLetter then
      some (lower (String.ofList (cs.takeWhile isSchemeChar)), rest)
    else none
  | _ => none

/-- a slash, in either direction if the scheme knows domain names -/
def isSlash (web : Bool) (c : Char) : Bool := c == '/' || (web && c == '\x5c')

def endsPath (c : Char) : Bool := c == '?' || c == '\x23'

def endsAuthority (web : Bool) (c : Char) : Bool := isSlash web c || endsPath c

/-! ## authorities -/

def readUser (cs : List Char) : String × String :=
  (userText (cs.takeWhile (· != ':')), userText ((cs.dropWhile (· != ':')).drop 1))

/-- the host, and the text behind it; brackets hide a colon -/
def splitHost (inBrackets : Bool) : List Char → List Char × List Char
  | [] => ([], [])
  | c :: cs =>
    if c == ':' && !inBrackets then ([], c :: cs)
    else
      let inside := if c == '[' then true else if c == ']' then false else inBrackets
      (c :: (splitHost inside cs).1, (splitHost inside cs).2)

def portCap : Nat := 65535

/-- the port behind a colon, and the text behind it, which only a backslash can begin -/
def readPort? (scheme : String) (cs : List Char) : Option (Option Nat × List Char) :=
  let ds := cs.takeWhile Text.isDigit
  let rest := cs.dropWhile Text.isDigit
  let n := Text.natOf ds
  if portCap < n || !(rest.isEmpty || rest.head? == some '\x5c') then none
  else if ds.isEmpty || defaultPort? scheme == some n then some (none, rest)
  else some (some n, rest)

/-- a host, which an address of a scheme with domain names cannot do without -/
def readHost? (scheme : String) (cs : List Char) : Option Host :=
  if isWeb scheme then if cs.isEmpty then none else Host.ofText? cs else Host.ofOpaque? cs

/-- an authority, and the text behind its port; `isLast` says that nothing follows -/
def readAuthority? (scheme : String) (cs : List Char) (isLast : Bool) :
    Option (Authority × List Char) :=
  let split := (splitLast? '@' cs).getD ([], cs)
  let user := readUser split.1
  let host := splitHost false split.2
  let hasUser := !(user.1.isEmpty && user.2.isEmpty)
  if host.1.isEmpty && (hasUser || !host.2.isEmpty || (cs == ['@'] && !isLast)) then none
  else
    match readHost? scheme host.1, readPort? scheme (host.2.drop 1) with
    | some h, some p => some (⟨user.1, user.2, h, p.1⟩, p.2)
    | _, _ => none

/-! ## paths -/

/-- a segment with escaped dots written plainly -/
def plainDots : List Char → List Char
  | '%' :: '2' :: 'e' :: cs => '.' :: plainDots cs
  | '%' :: '2' :: 'E' :: cs => '.' :: plainDots cs
  | c :: cs => c :: plainDots cs
  | [] => []

def isSingleDot (s : String) : Bool := plainDots s.toList == ['.']

def isDoubleDot (s : String) : Bool := plainDots s.toList == ['.', '.']

def driveLetter? (s : String) : Option Char :=
  match s.toList with
  | [c, d] => if isLetter c && (d == ':' || d == '|') then some c else none
  | _ => none

/-- the place above the last of these segments, reversed; a drive has none -/
def above : List String → List String
  | [] => []
  | s :: done => if (driveLetter? s).isSome then s :: done else done

/-- the first segment of a file path with the mark that drives have in normal form -/
def driveText (s : String) : String :=
  match driveLetter? s with
  | some c => String.ofList [c, ':']
  | none => s

/-- the segments after the dot segments are carried out; `done` holds those before, reversed -/
def resolve (isFile : Bool) (done : List String) : List String → List String
  | [] => done.reverse
  | s :: rest =>
    if isDoubleDot s then
      if rest.isEmpty then ("" :: above done).reverse else resolve isFile (above done) rest
    else if isSingleDot s then
      if rest.isEmpty then ("" :: done).reverse else resolve isFile done rest
    else resolve isFile ((if isFile && done.isEmpty then driveText s else s) :: done) rest

/-- the segments of a text behind those of `done`, which are reversed -/
def readSegments (scheme : String) (done : List String) (cs : List Char) : List String :=
  resolve (scheme == fileScheme) done
    ((piecesBy (isSlash (isWeb scheme)) cs).map segmentText)

/-- a path behind an authority; a path of a scheme with domain names is never empty -/
def readSteps (scheme : String) (cs : List Char) : List String :=
  match cs with
  | [] => if isWeb scheme then [""] else []
  | c :: rest =>
    if isSlash (isWeb scheme) c then readSegments scheme [] rest
    else readSegments scheme [] cs

/-! ## whole addresses -/

/-- the address with the query and the fragment that a text holds behind a path -/
def withRest (u : Url) (cs : List Char) : Url :=
  let query := match cs with
    | '?' :: rest => some (queryText (isWeb u.scheme) (rest.takeWhile (· != '\x23')))
    | _ => none
  let fragment := match cs.dropWhile (· != '\x23') with
    | _ :: rest => some (fragmentText rest)
    | [] => none
  { u with query := query, fragment := fragment }

def finish (scheme : String) (authority : Option Authority) (path : Path) (cs : List Char) : Url :=
  withRest ⟨scheme, authority, path, none, none⟩ (cs.dropWhile fun c => !endsPath c)

/-- an address from the text behind its two slashes -/
def readBehindSlashes? (scheme : String) (cs : List Char) : Option Url :=
  let ends := endsAuthority (isWeb scheme)
  let rest := cs.dropWhile fun c => !ends c
  match readAuthority? scheme (cs.takeWhile fun c => !ends c) rest.isEmpty with
  | none => none
  | some (a, left) =>
    let path := left ++ rest.takeWhile fun c => !endsPath c
    some (finish scheme (some a) (.steps (readSteps scheme path)) rest)

/-- the host of a file; this machine has no name -/
def readFileHost? (cs : List Char) : Option Host :=
  if cs.isEmpty then some .empty
  else (Host.ofText? cs).map fun h => if h == .name "localhost" then .empty else h

/-- the address of a file: no empty segments lead its path, and a drive is on this machine -/
def fileUrl (host : Host) (path rest : List Char) : Url :=
  let steps := readSteps fileScheme path
  let onDrive := steps.head?.any fun s => (driveLetter? s).isSome
  let led := steps.dropWhile String.isEmpty
  finish fileScheme (some ⟨"", "", if onDrive then .empty else host, none⟩)
    (.steps (if led.isEmpty then [""] else led)) rest

def readFile? (cs : List Char) : Option Url :=
  let plain := fileUrl .empty (cs.takeWhile fun c => !endsPath c) cs
  match cs with
  | a :: b :: rest =>
    if isSlash true a && isSlash true b then
      let name := rest.takeWhile fun c => !endsAuthority true c
      if (driveLetter? (String.ofList name)).isSome then
        some (fileUrl .empty (rest.takeWhile fun c => !endsPath c) rest)
      else
        (readFileHost? name).map fun h =>
          let path := rest.drop name.length
          fileUrl h (path.takeWhile fun c => !endsPath c) path
    else some plain
  | _ => some plain

/-- an address from the text behind a scheme without domain names -/
def readOther? (scheme : String) (cs : List Char) : Option Url :=
  let path := cs.takeWhile fun c => !endsPath c
  match cs with
  | '/' :: '/' :: rest => readBehindSlashes? scheme rest
  | '/' :: _ => some (finish scheme none (.steps (readSegments scheme [] (path.drop 1))) cs)
  | _ => some (finish scheme none (.whole (wholePathText path)) cs)

def readAbsolute? (scheme : String) (cs : List Char) : Option Url :=
  if scheme == fileScheme then readFile? cs
  else if isWeb scheme then readBehindSlashes? scheme (cs.dropWhile (isSlash true))
  else readOther? scheme cs

/-- a text as an address of its own -/
def ofText? (s : String) : Option Url :=
  (splitScheme? (cleaned s.toList)).bind fun p => readAbsolute? p.1 p.2

/-! ## references -/

/-- the segments of the place that an address is in, reversed -/
def place (u : Url) : List String :=
  match u.path with
  | .steps ss => ss.dropLast.reverse
  | .whole _ => []

def slashes (web : Bool) (cs : List Char) : List Char := cs.takeWhile (isSlash web)

/-- a text without a scheme as a reference -/
def readRelative? (base : Url) (cs : List Char) : Option Url :=
  let web := isWeb base.scheme
  let path := cs.takeWhile fun c => !endsPath c
  if 2 ≤ (slashes web cs).length then
    readBehindSlashes? base.scheme
      (if cs.take 2 == ['/', '/'] then cs.drop 2 else cs.dropWhile (isSlash web))
  else
    match cs with
    | [] => some base.withoutFragment
    | '?' :: _ => some (withRest base cs)
    | '\x23' :: _ => some { withRest base cs with query := base.query }
    | _ =>
      let steps :=
        if (slashes web cs).isEmpty then readSegments base.scheme base.place path
        else readSegments base.scheme [] (path.drop 1)
      some (finish base.scheme base.authority (.steps steps) cs)

/-- a text as an address, or as a reference from another one; the scheme of that one and a single
slash, or none, also make a reference -/
def join? (base : Url) (s : String) : Option Url :=
  let cs := cleaned s.toList
  match splitScheme? cs with
  | some (scheme, rest) =>
    if isWeb scheme && scheme == base.scheme && (slashes true rest).length < 2 then
      readRelative? base rest
    else readAbsolute? scheme rest
  | none => readRelative? base cs

end Refetch.Http.Url
