/-!
# JSON values

A value keeps what a reader of documents can tell apart: the members of an
object in order, repeated keys included, and whether a number is an integer.  A
string whose escapes write half of a surrogate pair has no text.
-/

namespace SidecarProxy
namespace Json

/-- A JSON value. -/
inductive Value where
  | null
  | bool (b : Bool)
  | integer (n : Int)
  /-- A number with a fraction or an exponent. -/
  | fraction (written : String)
  | string (text : Option String)
  | array (items : List Value)
  | object (members : List (Option String × Value))
  deriving Repr, Inhabited

/-- A string value with the given text. -/
def Value.ofText (s : String) : Value :=
  .string (some s)

/-- The array of strings. -/
def Value.ofTexts (ss : List String) : Value :=
  .array (ss.map .ofText)

/-- The string, or null when there is none. -/
def Value.ofText? : Option String → Value
  | none => .null
  | some s => .ofText s

/-- The object with the given members. -/
def Value.ofMembers (ms : List (String × Value)) : Value :=
  .object (ms.map fun m => (some m.1, m.2))

end Json
end SidecarProxy
