import SidecarProxy.Text.Letters

/-!
# Header fields

Header fields in the order in which they were received, names in small letters.
A name may occur several times.
-/

namespace SidecarProxy
namespace Message

/-- The punctuation that a token may hold. -/
def tokenMarks : List Char := "!#$%&'*+-.^_`|~".toList

/-- The characters of a token. -/
def isTokenChar (c : Char) : Bool :=
  c.isAlphanum || tokenMarks.contains c

/-- A token: a method or the name of a field. -/
def isToken (s : String) : Bool :=
  s != "" && s.toList.all isTokenChar

/-- The longest name of a field. -/
def maxNameLength : Nat := 65535

/-- Whether text can be the name of a field. -/
def isFieldName (s : String) : Bool :=
  isToken s && s.length ≤ maxNameLength

/-- Whether text can be the value of a field: no control character but the tab. -/
def isFieldValue (s : String) : Bool :=
  s.toList.all fun c => (0x20 ≤ c.toNat && c.toNat != 0x7f) || c == '\t'

/-- Whether a value can be read as text: visible ASCII, blanks and tabs. -/
def isReadable (s : String) : Bool :=
  s.toList.all fun c => (0x20 ≤ c.toNat && c.toNat < 0x7f) || c == '\t'

/-- Header fields in order. -/
abbrev Headers := List (String × String)

namespace Headers

/-- The most names that the fields of one header can have. -/
def mostNames : Nat := 24576

/-- The names of the fields, each once. -/
def names (hs : Headers) : List String :=
  (hs.map (·.1)).eraseDups

/-- Fields as a header; nothing when one of them comes after as many names as there can be. -/
def ofFields? (fields : List (String × String)) : Option Headers :=
  if (names fields.dropLast).length < mostNames then some fields else none

/-- The values of a name, in order. -/
def valuesOf (hs : Headers) (name : String) : List String :=
  (hs.filter (·.1 == name)).map (·.2)

/-- Puts one value in place of all values of a name. -/
def put (hs : Headers) (name value : String) : Headers :=
  hs.filter (·.1 != name) ++ [(name, value)]

/-- Puts one value in place of all values of a name, as long as there is room for one more name. -/
def put? (hs : Headers) (name value : String) : Option Headers :=
  if hs.names.length < mostNames then some (hs.put name value) else none

/-- The first value of a name, if it can be read as text. -/
def text? (hs : Headers) (name : String) : Option String :=
  (hs.valuesOf name).head?.filter isReadable

end Headers
end Message
end SidecarProxy
