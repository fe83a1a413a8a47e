/-!
# Blank text

A character is blank when it has the Unicode property `White_Space`.  Text is
trimmed by removing blank characters from both ends, and is blank when nothing
is left.
-/

namespace SidecarProxy
namespace Text

/-- The characters with the property `White_Space`. -/
def isBlankChar (c : Char) : Bool :=
  let n := c.toNat
  (0x09 ≤ n && n ≤ 0x0d) || n == 0x20 || n == 0x85 || n == 0xa0 || n == 0x1680 ||
    (0x2000 ≤ n && n ≤ 0x200a) || n == 0x2028 || n == 0x2029 || n == 0x202f ||
    n == 0x205f || n == 0x3000

/-- Characters without blanks at either end. -/
def trimChars (cs : List Char) : List Char :=
  ((cs.dropWhile isBlankChar).reverse.dropWhile isBlankChar).reverse

/-- Text without blanks at either end. -/
def trim (s : String) : String :=
  String.ofList (trimChars s.toList)

/-- Text of blanks only. -/
def isBlank (s : String) : Bool :=
  s.toList.all isBlankChar

end Text
end SidecarProxy
