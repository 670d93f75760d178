import Refetch.Json.Number
/-!
# JSON values that are passed over

`skipValue cs` is the text after one value of any depth, or the first problem in it: `truncated`
where the text ends inside the value, `malformed` anywhere else.  `wrongValue cs` is the problem
of a value that is read where another type was asked for: the value is looked at as far as its
first token, and is `mistyped` if that token is sound.
-/

namespace Refetch.Json

open Text (isDigit)

mutual

/-- one value, passed over with so much fuel -/
def skipValueWith : Nat → List Char → Except Problem (List Char)
  | 0, _ => .error .malformed
  | n + 1, cs =>
    match skipBlank cs with
    | [] => .error .truncated
    | 'n' :: r => word ['u', 'l', 'l'] r
    | 't' :: r => word ['r', 'u', 'e'] r
    | 'f' :: r => word ['a', 'l', 's', 'e'] r
    | '-' :: r => skipNumber r
    | '\x22' :: r => skipString r
    | '[' :: r =>
      match skipBlank r with
      | [] => .error .truncated
      | ']' :: r => .ok r
      | r => skipElementsWith n r
    | '\x7b' :: r =>
      match skipBlank r with
      | [] => .error .truncated
      | '\x7d' :: r => .ok r
      | r => skipMembersWith n r
    | c :: r => if isDigit c then skipNumber (c :: r) else .error .malformed

def skipElementsWith : Nat → List Char → Except Problem (List Char)
  | 0, _ => .error .malformed
  | n + 1, cs =>
    match skipValueWith n cs with
    | .error p => .error p
    | .ok r =>
      match skipBlank r with
      | [] => .error .truncated
      | ',' :: r => skipElementsWith n r
      | ']' :: r => .ok r
      | _ => .error .malformed

/-- the members of an object up to its end, passed over with so much fuel -/
def skipMembersWith : Nat → List Char → Except Problem (List Char)
  | 0, _ => .error .malformed
  | n + 1, cs =>
    match skipBlank cs with
    | [] => .error .truncated
    | '\x22' :: r =>
      match skipString r with
      | .error p => .error p
      | .ok r =>
        match skipBlank r with
        | [] => .error .truncated
        | ':' :: r =>
          match skipValueWith n r with
          | .error p => .error p
          | .ok r =>
            match skipBlank r with
            | [] => .error .truncated
            | ',' :: r => skipMembersWith n r
            | '\x7d' :: r => .ok r
            | _ => .error .malformed
        | _ => .error .malformed
    | _ => .error .malformed

end

def skipValue (cs : List Char) : Except Problem (List Char) :=
  skipValueWith (2 * cs.length + 2) cs

/-- the problem of a reader's result, or `mistyped` if it read something -/
def problemOr {α : Type} : Except Problem α → Problem
  | .error p => p
  | .ok _ => .mistyped

/-- the problem of a value where another type was asked for -/
def wrongValue : List Char → Problem
  | [] => .truncated
  | 'n' :: r => problemOr (word ['u', 'l', 'l'] r)
  | 't' :: r => problemOr (word ['r', 'u', 'e'] r)
  | 'f' :: r => problemOr (word ['a', 'l', 's', 'e'] r)
  | '-' :: r => problemOr (readNumber r)
  | '\x22' :: r => problemOr (readString r)
  | '[' :: _ => .mistyped
  | '\x7b' :: _ => .mistyped
  | c :: r => if isDigit c then problemOr (readNumber (c :: r)) else .malformed

/-! ## values of the types that are asked for -/

/-- a natural number up to `most` -/
def readNatural (most : Nat) (cs : List Char) : Except Problem (Nat × List Char) :=
  match skipBlank cs with
  | [] => .error .truncated
  | c :: r =>
    if isDigit c then
      match readNumber (c :: r) with
      | .error p => .error p
      | .ok (some n, rest) => if n ≤ most then .ok (n, rest) else .error .mistyped
      | .ok (none, _) => .error .mistyped
    else .error (wrongValue (c :: r))

def readBool (cs : List Char) : Except Problem (Bool × List Char) :=
  match skipBlank cs with
  | [] => .error .truncated
  | 't' :: r => (word ['r', 'u', 'e'] r).map fun rest => (true, rest)
  | 'f' :: r => (word ['a', 'l', 's', 'e'] r).map fun rest => (false, rest)
  | cs => .error (wrongValue cs)

/-- a natural number up to `most`, or the word for none -/
def readOptionalNatural (most : Nat) (cs : List Char) :
    Except Problem (Option Nat × List Char) :=
  match skipBlank cs with
  | 'n' :: r => (word ['u', 'l', 'l'] r).map fun rest => (none, rest)
  | cs => (readNatural most cs).map fun r => (some r.1, r.2)

end Refetch.Json
