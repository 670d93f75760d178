import Refetch.Text.Composition
import Refetch.Text.Marks
/-!
# Joiners

Letters of the Arabic script and its kin join their neighbours.  Two characters without a shape
of their own, the joiner and the non-joiner, say whether two letters join; elsewhere they would
be invisible (RFC 5892, appendix A).

* `Joining`          the sides on which a letter joins;
* `joiningOf c`      the sides of a character;
* `joinersFit cs`    both joiners stand only where they have a meaning: behind a sign that mutes
                     a vowel, and the non-joiner also between two letters that would join.
-/

namespace Refetch.Text

/-- the sides on which a letter joins -/
inductive Joining where
  | none
  | before
  | after
  | both
  deriving DecidableEq, Repr

/-- where the sides change, marks passed over -/
def joiningRuns : List (Nat × Joining) := [
  (0x21, .none), (0x620, .both), (0x621, .none), (0x622, .before), (0x626, .both),
  (0x627, .before), (0x628, .both), (0x629, .before), (0x62A, .both), (0x62F, .before),
  (0x633, .both), (0x648, .before), (0x649, .both), (0x660, .none), (0x66E, .both),
  (0x671, .before), (0x674, .none), (0x679, .both), (0x688, .before), (0x69A, .both),
  (0x6C0, .before), (0x6C1, .both), (0x6C3, .before), (0x6CC, .both), (0x6CD, .before),
  (0x6CE, .both), (0x6CF, .before), (0x6D0, .both), (0x6D2, .before), (0x6D4, .none),
  (0x6D5, .before), (0x6DE, .none), (0x6EE, .before), (0x6F0, .none), (0x6FA, .both),
  (0x6FD, .none), (0x6FF, .both), (0x700, .none), (0x710, .before), (0x712, .both),
  (0x715, .before), (0x71A, .both), (0x71E, .before), (0x71F, .both), (0x728, .before),
  (0x729, .both), (0x72A, .before), (0x72B, .both), (0x72C, .before), (0x72D, .both),
  (0x72F, .before), (0x74E, .both), (0x759, .before), (0x75C, .both), (0x76B, .before),
  (0x76D, .both), (0x771, .before), (0x772, .both), (0x773, .before), (0x775, .both),
  (0x778, .before), (0x77A, .both), (0x780, .none), (0x7CA, .both), (0x7F4, .none),
  (0x7FA, .both), (0x7FE, .none), (0x840, .before), (0x841, .both), (0x846, .before),
  (0x848, .both), (0x849, .before), (0x84A, .both), (0x854, .before), (0x855, .both),
  (0x856, .before), (0x85E, .none), (0x860, .both), (0x861, .none), (0x862, .both),
  (0x866, .none), (0x867, .before), (0x868, .both), (0x869, .before), (0x883, .both),
  (0x887, .none), (0x889, .both), (0x88E, .before), (0x8A0, .both), (0x8AA, .before),
  (0x8AD, .none), (0x8AE, .before), (0x8AF, .both), (0x8B1, .before), (0x8B3, .both),
  (0x8B9, .before), (0x8BA, .both), (0x8C9, .none), (0x1807, .both), (0x1808, .none),
  (0x180A, .both), (0x1810, .none), (0x1820, .both), (0x1880, .none), (0x1887, .both),
  (0x18B0, .none), (0x200D, .both), (0x2010, .none), (0xA840, .both), (0xA872, .after),
  (0xA873, .none), (0x10AC0, .both), (0x10AC5, .before), (0x10AC6, .none), (0x10AC7, .before),
  (0x10AC8, .none), (0x10AC9, .before), (0x10ACB, .none), (0x10ACD, .after), (0x10ACE, .before),
  (0x10AD3, .both), (0x10AD7, .after), (0x10AD8, .both), (0x10ADD, .before), (0x10ADE, .both),
  (0x10AE1, .before), (0x10AE2, .none), (0x10AE4, .before), (0x10AEB, .both), (0x10AEF, .before),
  (0x10AF0, .none), (0x10B80, .both), (0x10B81, .before), (0x10B82, .both), (0x10B83, .before),
  (0x10B86, .both), (0x10B89, .before), (0x10B8A, .both), (0x10B8C, .before), (0x10B8D, .both),
  (0x10B8E, .before), (0x10B90, .both), (0x10B91, .before), (0x10B99, .none), (0x10BA9, .before),
  (0x10BAD, .both), (0x10BAF, .none), (0x10D00, .after), (0x10D01, .both), (0x10D22, .before),
  (0x10D23, .both), (0x10D30, .none), (0x10F30, .both), (0x10F33, .before), (0x10F34, .both),
  (0x10F45, .none), (0x10F51, .both), (0x10F54, .before), (0x10F55, .none), (0x10F70, .both),
  (0x10F74, .before), (0x10F76, .both), (0x10F86, .none), (0x10FB0, .both), (0x10FB1, .none),
  (0x10FB2, .both), (0x10FB4, .before), (0x10FB7, .none), (0x10FB8, .both), (0x10FB9, .before),
  (0x10FBB, .both), (0x10FBD, .before), (0x10FBE, .both), (0x10FC0, .none), (0x10FC1, .both),
  (0x10FC2, .before), (0x10FC4, .both), (0x10FC5, .none), (0x10FC9, .before), (0x10FCA, .both),
  (0x10FCB, .after), (0x10FE0, .none), (0x1E922, .both), (0x1E950, .none)]

def joiningOf (c : Char) : Joining := valueAt joiningRuns .none c

def nonJoiner : Char := '\u200c'

def joiner : Char := '\u200d'

def muteClass : Nat := 9

/-- a character that joining letters are seen through -/
def isTransparent (c : Char) : Bool := isNonspacing c || c.toNat == 0x1E94B

/-- the next letter, marks passed over, joins on one of these sides -/
def meets (sides : List Joining) (cs : List Char) : Bool :=
  match cs.dropWhile isTransparent with
  | c :: _ => sides.contains (joiningOf c)
  | [] => false

/-- both joiners stand where they have a meaning; `back` is the text before, reversed -/
def joinersFitFrom (back : List Char) : List Char → Bool
  | [] => true
  | c :: cs =>
    let muted := match back with
      | d :: _ => combiningClass d == muteClass
      | [] => false
    let fits :=
      if c == joiner then muted
      else if c == nonJoiner then
        muted || (meets [.after, .both] back && meets [.before, .both] cs)
      else true
    fits && joinersFitFrom (c :: back) cs

def joinersFit (cs : List Char) : Bool := joinersFitFrom [] cs

end Refetch.Text
