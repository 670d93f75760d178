import Refetch.Text.Marks
/-!
# Direction of writing

Some scripts are written from right to left.  A name that mixes directions can look like another
name, so every label of a name with a right-to-left character keeps to one direction
(RFC 5893, section 2).

* `Direction`            the bidirectional class of a character, as far as names need it;
* `directionOf c`        the class of a character;
* `runsLeft cs`          some character is written from right to left;
* `keepsDirection cs`    the rule for a label.
-/

namespace Refetch.Text

/-- the bidirectional class of a character -/
inductive Direction where
  | left
  | right
  /-- a letter of the Arabic script and its kin -/
  | arabic
  | europeanNumber
  | arabicNumber
  /-- a plus or a minus sign -/
  | sign
  /-- a mark between the groups of a number -/
  | separator
  /-- a mark that goes with a number, such as that of a currency -/
  | terminator
  /-- a mark that takes no space of its own -/
  | mark
  | boundary
  | neutral
  deriving DecidableEq, Repr

/-- where the classes of characters other than marks begin -/
def directionRuns : List (Nat × Direction) := [
  (0x21, .neutral), (0x24, .terminator), (0x26, .neutral), (0x2B, .sign), (0x2C, .separator),
  (0x2D, .sign), (0x30, .europeanNumber), (0x3B, .neutral), (0x61, .left), (0x7B, .neutral),
  (0xA2, .terminator), (0xA6, .neutral), (0xB0, .terminator), (0xB6, .neutral), (0xDF, .left),
  (0xF7, .neutral), (0xF8, .left), (0x2B9, .neutral), (0x2BB, .left), (0x2C2, .neutral),
  (0x2D0, .left), (0x2D2, .neutral), (0x2EE, .left), (0x2EF, .neutral), (0x371, .left),
  (0x375, .neutral), (0x377, .left), (0x3F6, .neutral), (0x3F8, .left), (0x58A, .neutral),
  (0x58F, .terminator), (0x5BE, .right), (0x606, .neutral), (0x608, .arabic),
  (0x609, .terminator), (0x60B, .arabic), (0x60C, .separator), (0x60D, .arabic),
  (0x60E, .neutral), (0x61B, .arabic), (0x660, .arabicNumber), (0x66A, .terminator),
  (0x66B, .arabicNumber), (0x66D, .arabic), (0x6DE, .neutral), (0x6E5, .arabic),
  (0x6E9, .neutral), (0x6EE, .arabic), (0x6F0, .europeanNumber), (0x6FA, .arabic),
  (0x7C0, .right), (0x7F6, .neutral), (0x7FA, .right), (0x860, .arabic), (0x903, .left),
  (0x9F2, .terminator), (0x9F4, .left), (0x9FB, .terminator), (0x9FC, .left),
  (0xAF1, .terminator), (0xAF9, .left), (0xBF3, .neutral), (0xBF9, .terminator),
  (0xBFA, .neutral), (0xC01, .left), (0xC78, .neutral), (0xC7F, .left), (0xE3F, .terminator),
  (0xE40, .left), (0xF3A, .neutral), (0xF3E, .left), (0x1390, .neutral), (0x13A0, .left),
  (0x1400, .neutral), (0x1401, .left), (0x169B, .neutral), (0x16A0, .left), (0x17DB, .terminator),
  (0x17DC, .left), (0x17F0, .neutral), (0x1810, .left), (0x1940, .neutral), (0x1946, .left),
  (0x19DE, .neutral), (0x1A00, .left), (0x200C, .boundary), (0x2010, .neutral),
  (0x2030, .terminator), (0x2035, .neutral), (0x2044, .separator), (0x2045, .neutral),
  (0x20A0, .terminator), (0x2104, .neutral), (0x212E, .terminator), (0x213A, .neutral),
  (0x214E, .left), (0x218A, .neutral), (0x2212, .sign), (0x2213, .terminator), (0x2214, .neutral),
  (0x2336, .left), (0x237B, .neutral), (0x2395, .left), (0x2396, .neutral), (0x26AC, .left),
  (0x26AD, .neutral), (0x2800, .left), (0x2900, .neutral), (0x2C30, .left), (0x2CE5, .neutral),
  (0x2CEC, .left), (0x2CF9, .neutral), (0x2D00, .left), (0x2E00, .neutral), (0x3005, .left),
  (0x3008, .neutral), (0x3021, .left), (0x3030, .neutral), (0x3031, .left), (0x3037, .neutral),
  (0x303B, .left), (0x303D, .neutral), (0x3041, .left), (0x30A0, .neutral), (0x30A1, .left),
  (0x30FB, .neutral), (0x30FC, .left), (0x31C0, .neutral), (0x31F0, .left), (0x4DC0, .neutral),
  (0x4E00, .left), (0xA490, .neutral), (0xA4D0, .left), (0xA60D, .neutral), (0xA610, .left),
  (0xA673, .neutral), (0xA681, .left), (0xA700, .neutral), (0xA723, .left), (0xA788, .neutral),
  (0xA789, .left), (0xA828, .neutral), (0xA830, .left), (0xA838, .terminator), (0xA840, .left),
  (0xA874, .neutral), (0xA880, .left), (0xAB6A, .neutral), (0xABC0, .left), (0xFBB2, .arabic),
  (0xFD3E, .neutral), (0xFE73, .arabic), (0x10000, .left), (0x10101, .neutral), (0x10102, .left),
  (0x10140, .neutral), (0x1018D, .left), (0x10190, .neutral), (0x101D0, .left),
  (0x102E1, .europeanNumber), (0x10300, .left), (0x10800, .right), (0x1091F, .neutral),
  (0x10920, .right), (0x10B39, .neutral), (0x10B40, .right), (0x10D00, .arabic),
  (0x10D30, .arabicNumber), (0x10E80, .right), (0x10F30, .arabic), (0x10F70, .right),
  (0x11000, .left), (0x11052, .neutral), (0x11066, .left), (0x11660, .neutral), (0x11680, .left),
  (0x11FD5, .neutral), (0x11FDD, .terminator), (0x11FE1, .neutral), (0x11FFF, .left),
  (0x16FE2, .neutral), (0x16FE3, .left), (0x1D1E9, .neutral), (0x1D2C0, .left),
  (0x1D300, .neutral), (0x1D360, .left), (0x1E2FF, .terminator), (0x1E4D0, .left),
  (0x1E800, .right), (0x1EC71, .arabic), (0x1EEF0, .neutral), (0x1F150, .left),
  (0x1F16D, .neutral), (0x1F170, .left), (0x1F1AD, .neutral), (0x1F1E6, .left),
  (0x1F260, .neutral), (0x20000, .left)]

def directionOf (c : Char) : Direction :=
  if isNonspacing c then .mark else valueAt directionRuns .left c

namespace Direction

/-- the classes that make a name one of two directions -/
def rightToLeft : List Direction := [.right, .arabic, .arabicNumber]

/-- the classes that may stand anywhere -/
def anywhere : List Direction :=
  [.europeanNumber, .sign, .separator, .terminator, .neutral, .boundary, .mark]

/-- a label from left to right, by its classes -/
def leftLabel (ds : List Direction) : Bool :=
  ds.all (fun d => d == .left || anywhere.contains d) &&
    match ds.reverse.dropWhile (· == .mark) with
    | d :: _ => d == .left || d == .europeanNumber
    | [] => false

/-- a label from right to left, by its classes -/
def rightLabel (ds : List Direction) : Bool :=
  ds.all (fun d => rightToLeft.contains d || anywhere.contains d) &&
    !(ds.contains .europeanNumber && ds.contains .arabicNumber) &&
    match ds.reverse.dropWhile (· == .mark) with
    | d :: _ => rightToLeft.contains d || d == .europeanNumber
    | [] => false

end Direction

def runsLeft (cs : List Char) : Bool :=
  cs.any fun c => Direction.rightToLeft.contains (directionOf c)

/-- the label keeps to one direction; an empty one does -/
def keepsDirection (cs : List Char) : Bool :=
  let ds := cs.map directionOf
  match ds with
  | [] => true
  | .left :: _ => Direction.leftLabel ds
  | .right :: _ => Direction.rightLabel ds
  | .arabic :: _ => Direction.rightLabel ds
  | _ => false

end Refetch.Text
