import SidecarProxy.Unicode.Direction
import SidecarProxy.Unicode.Joining
import SidecarProxy.Unicode.NormalForm
import SidecarProxy.WebUrl.NameChar
import SidecarProxy.WebUrl.Punycode

/-!
# Labels of host names

A label is what stands between the dots of a name.  One with characters outside
ASCII is written as `xn--` and a code; it may not begin with a mark, its joiners
have to stand between letters on which they act, and where a name holds letters
from right to left the characters of each label have to go together.
-/

namespace SidecarProxy
namespace WebUrl

open Unicode

/-- The longest label with characters outside ASCII. -/
def longestWideLabel : Nat := 1000

/-- The longest code of a label. -/
def longestCode : Nat := 2000

/-! ## Joiners -/

/-- Whether the first character that is not transparent joins on one of some sides. -/
def joinsOn (sides : List Joining) (cs : List Char) : Bool :=
  match (cs.map joining).dropWhile (· = .transparent) with
  | side :: _ => sides.contains side
  | [] => false

/-- Whether a joiner may stand behind some characters, the last one in front, and before others. -/
def joinerAllowed (c : Char) (before after : List Char) : Bool :=
  match before with
  | [] => false
  | d :: _ =>
    isVirama d ||
      (c == nonJoiner && joinsOn [.left, .both] before && joinsOn [.right, .both] after)

/-- Whether every joiner stands where it may; `before` holds the characters in front, reversed. -/
def joinersAllowed (before : List Char) : List Char → Bool
  | [] => true
  | c :: rest =>
    ((c != joiner && c != nonJoiner) || joinerAllowed c before rest) &&
      joinersAllowed (c :: before) rest

/-- Whether characters can be a label. -/
def isLabel (cs : List Char) : Bool :=
  match cs with
  | [] => true
  | c :: _ =>
    !isMark c && joinersAllowed [] cs &&
      (cs.all (·.toNat < 0x80) || cs.length ≤ longestWideLabel)

/-! ## Directions of writing -/

/-- Whether a label can stand in a name in which something is written from right to left. -/
def directionAllowed (cs : List Char) : Bool :=
  let parts := cs.map direction
  let last := (parts.reverse.dropWhile (· = .combining)).head?
  match parts.head? with
  | none => true
  | some .leftward =>
    !parts.contains .rightward && !(parts.contains .digit && parts.contains .leftwardDigit) &&
      (last = some .leftward || last = some .digit || last = some .leftwardDigit)
  | some .rightward =>
    !parts.contains .leftward && !parts.contains .leftwardDigit &&
      (last = some .rightward || last = some .digit)
  | some _ => false

/-- Whether the labels of a name go together in the direction of writing. -/
def directionsAllowed (labels : List (List Char)) : Bool :=
  let leftward := labels.any fun cs =>
    cs.any fun c => direction c = .leftward || direction c = .leftwardDigit
  !leftward || labels.all directionAllowed

/-! ## Codes -/

/-- The mark in front of the code of a label. -/
def codeMark : List Char := "xn--".toList

/-- The label that a code writes; it has to stand for itself and to be in normal form. -/
def decodeLabel? (code : List Char) : Option (List Char) := do
  if code.getLast? = none || code.getLast? = some '-' || longestCode < code.length then none
  let cs ← Punycode.decode? code
  if cs.all (nameChar · = .kept) && normalize cs = cs then some cs else none

/-- The characters of a label as they are read. -/
def readLabel? (cs : List Char) : Option (List Char) :=
  if codeMark.isPrefixOf cs then decodeLabel? (cs.drop codeMark.length) else some cs

/-- A label in ASCII. -/
def writeLabel (cs : List Char) : List Char :=
  if cs.all (·.toNat < 0x80) then cs else codeMark ++ Punycode.encode cs

end WebUrl
end SidecarProxy
