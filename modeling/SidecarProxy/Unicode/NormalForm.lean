import SidecarProxy.Unicode.Decomposition
import SidecarProxy.Unicode.Mark

/-!
# The composed normal form

Text that looks the same can be written in several ways.  Its normal form takes
every character apart, sorts the marks behind each character by their class, and
puts together again what can be one character.
-/

namespace SidecarProxy
namespace Unicode

/-- Puts a character in front of others, behind those marks that have to come first. -/
def placeMark (c : Char) : List Char → List Char
  | [] => [c]
  | d :: rest =>
    if 0 < combiningClass d && combiningClass d < combiningClass c then d :: placeMark c rest
    else c :: d :: rest

/-- Sorts the marks between characters of class zero; marks of one class stay in order. -/
def sortMarks (cs : List Char) : List Char :=
  cs.foldr placeMark []

/-- Whether nothing among the marks keeps a character from joining the one in front of them. -/
def reaches (marks : List Char) (c : Char) : Bool :=
  match marks.getLast? with
  | none => true
  | some m => combiningClass m < combiningClass c

/-- Puts characters together with the one in front of them; `marks` stand between and stay. -/
def composeAfter (front : Char) (marks : List Char) : List Char → List Char
  | [] => front :: marks
  | c :: rest =>
    match if reaches marks c then compose? front c else none with
    | some whole => composeAfter whole marks rest
    | none =>
      if combiningClass c = 0 then front :: marks ++ composeAfter c [] rest
      else composeAfter front (marks ++ [c]) rest

/-- Puts together what can be one character. -/
def composeAll : List Char → List Char
  | [] => []
  | c :: rest => composeAfter c [] rest

/-- The normal form of characters. -/
def normalize (cs : List Char) : List Char :=
  composeAll (sortMarks (cs.flatMap decompose))

end Unicode
end SidecarProxy
