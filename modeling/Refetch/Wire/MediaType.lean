import Refetch.Http.Token
/-!
# Media types

A media type is a type and a subtype with a slash between them, both tokens, and parameters after
them.  `mediaType? s` is the normal form of `s`, with names in lower case, if it is one:

* a parameter has a name, which is a token, and a value, which is a token or stands in quotes;
* a semicolon is before each parameter, and blanks may be before its name;
* the value of the parameter `charset` is in lower case too.
-/

namespace Refetch.Wire

open Http (isTokenChar lowerChar)

def lowered (cs : List Char) : List Char := cs.map lowerChar

def isQuotedChar (c : Char) : Bool := 31 < c.toNat && c.toNat != 127

/-- a value after its opening quote, and what follows its closing quote; a quote that comes first
is part of the value -/
def quotedValue? : List Char → Option (List Char × List Char)
  | [] => none
  | c :: cs =>
    let inside := fun (d : Char) => isQuotedChar d && d != '\x22'
    if isQuotedChar c then
      match cs.dropWhile inside with
      | '\x22' :: rest => some (c :: cs.takeWhile inside, rest)
      | _ => none
    else none

/-- the parameters after a semicolon, in normal form, with so much fuel -/
def parametersWith : Nat → List Char → Option (List Char)
  | 0, _ => none
  | _ + 1, [] => some []
  | n + 1, ' ' :: cs => (parametersWith n cs).map (' ' :: ·)
  | n + 1, cs =>
    let name := lowered (cs.takeWhile isTokenChar)
    if name.isEmpty then none
    else
      let cased := fun (v : List Char) =>
        if name == ['c', 'h', 'a', 'r', 's', 'e', 't'] then lowered v else v
      match cs.dropWhile isTokenChar with
      | '=' :: '\x22' :: rest =>
        match quotedValue? rest with
        | some (value, rest) =>
          let shown := name ++ '=' :: '\x22' :: (cased value ++ ['\x22'])
          let blanks := rest.takeWhile (· == ' ')
          match rest.dropWhile (· == ' ') with
          | [] => some (shown ++ blanks)
          | ';' :: rest => (parametersWith n rest).map fun r => shown ++ blanks ++ ';' :: r
          | _ => none
        | none => none
      | '=' :: rest =>
        let value := rest.takeWhile isTokenChar
        let shown := name ++ '=' :: cased value
        match rest.dropWhile isTokenChar with
        | [] => some shown
        | ';' :: rest =>
          if value.isEmpty then none
          else (parametersWith n rest).map fun r => shown ++ ';' :: r
        | _ => none
      | _ => none

def hasNoParameters (cs : List Char) : Bool := cs.all (· == ' ')

def mediaType? (s : String) : Option String :=
  let cs := s.toList
  let top := cs.takeWhile isTokenChar
  match cs.dropWhile isTokenChar with
  | '/' :: rest =>
    let sub := rest.takeWhile isTokenChar
    if top.isEmpty then none
    else
      let both := lowered top ++ '/' :: lowered sub
      match rest.dropWhile isTokenChar with
      | [] => some (String.ofList both)
      | c :: rest =>
        if sub.isEmpty || c != ';' then none
        else if hasNoParameters rest then some (String.ofList both)
        else
          (parametersWith (rest.length + 1) rest).map fun ps => String.ofList (both ++ c :: ps)
  | _ => none

end Refetch.Wire
