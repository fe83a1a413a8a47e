/-!
# Bytes of text

Paths and patterns are compared byte by byte, so text is viewed as the list of
its UTF-8 bytes.
-/

namespace SidecarProxy
namespace Text

/-- The UTF-8 bytes of a list of characters. -/
def utf8Chars (cs : List Char) : List UInt8 :=
  cs.flatMap String.utf8EncodeChar

/-- The UTF-8 bytes of text. -/
def utf8 (s : String) : List UInt8 :=
  utf8Chars s.toList

@[simp]
theorem utf8Chars_nil : utf8Chars [] = [] := rfl

@[simp]
theorem utf8Chars_append (a b : List Char) :
    utf8Chars (a ++ b) = utf8Chars a ++ utf8Chars b := by
  simp [utf8Chars]

end Text
end SidecarProxy
