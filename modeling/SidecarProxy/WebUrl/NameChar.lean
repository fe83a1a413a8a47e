import SidecarProxy.WebUrl.NameChar.Forbidden
import SidecarProxy.WebUrl.NameChar.Replaced

/-!
# Characters of host names

What becomes of a character of a host name: most stand for themselves, capitals
and compatible forms stand for other characters, some do not count, and some
may not occur.
-/

namespace SidecarProxy
namespace WebUrl

open Unicode

/-- What becomes of a character of a host name. -/
inductive NameChar where
  | kept
  | dropped
  | replaced (cs : List Char)
  | forbidden
  deriving DecidableEq, Repr

/-- What becomes of a character; in ASCII only capitals change. -/
def nameChar (c : Char) : NameChar :=
  if c.toNat < 0x80 then if c.isUpper then .replaced [c.toLower] else .kept
  else if isIn forbiddenStretches c then .forbidden
  else if isIn droppedStretches c then .dropped
  else
    match replacement? c with
    | some cs => .replaced cs
    | none => .kept

/-- A name with its characters replaced by those for which they stand. -/
def replaceChars : List Char → Option (List Char)
  | [] => some []
  | c :: rest =>
    match nameChar c with
    | .kept => (replaceChars rest).map (c :: ·)
    | .dropped => replaceChars rest
    | .replaced cs => (replaceChars rest).map (cs ++ ·)
    | .forbidden => none

/-- The characters of ASCII that may not occur in a name, the controls and the blank apart. -/
def forbiddenMarks : List Char := "%#/:<>?@[\\]^|".toList

/-- Whether a character is one of ASCII that may not occur in a name. -/
def isForbidden (c : Char) : Bool :=
  c.toNat ≤ 0x20 || c.toNat = 0x7f || forbiddenMarks.contains c

end WebUrl
end SidecarProxy
