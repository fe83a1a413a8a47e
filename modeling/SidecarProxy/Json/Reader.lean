import SidecarProxy.Json.Basic
import SidecarProxy.Json.Token

/-!
# Reading JSON

The tokens of a text are put together with a stack of the arrays and objects
that are still open, so nesting may be as deep as the text makes it.
-/

namespace SidecarProxy
namespace Json

open Text

/-- Whether characters after the sign write the whole part of a number. -/
def isWhole (cs : List Char) : Bool :=
  match cs with
  | ['0'] => true
  | c :: rest => c != '0' && c.isDigit && rest.all Char.isDigit
  | [] => false

/-- Whether characters are a non-empty run of digits. -/
def isDigits (cs : List Char) : Bool :=
  !cs.isEmpty && cs.all Char.isDigit

/-- Whether characters write an exponent after its letter. -/
def isExponent : List Char → Bool
  | '+' :: rest => isDigits rest
  | '-' :: rest => isDigits rest
  | cs => isDigits cs

/-- Whether characters write a fraction, an exponent or both. -/
def isTail (cs : List Char) : Bool :=
  let exponentMark := fun c : Char => c == 'e' || c == 'E'
  let fractionOk := match cs.takeWhile (!exponentMark ·) with
    | [] => true
    | '.' :: digits => isDigits digits
    | _ => false
  let exponentOk := match cs.dropWhile (!exponentMark ·) with
    | [] => true
    | _ :: exponent => isExponent exponent
  fractionOk && exponentOk

/-- The number that characters write. -/
def number? (cs : List Char) : Option Value :=
  let (negative, unsigned) := match cs with
    | '-' :: rest => (true, rest)
    | _ => (false, cs)
  let whole := unsigned.takeWhile Char.isDigit
  let tail := unsigned.dropWhile Char.isDigit
  if !isWhole whole || !isTail tail then none
  else if !tail.isEmpty then some (.fraction (String.ofList cs))
  else
    match decimal? whole with
    | none => none
    | some 0 => if negative then some (.fraction (String.ofList cs)) else some (.integer 0)
    | some n => some (.integer (if negative then -n else n))

/-- The value of a word. -/
def wordValue? (cs : List Char) : Option Value :=
  match String.ofList cs with
  | "null" => some .null
  | "true" => some (.bool true)
  | "false" => some (.bool false)
  | _ => number? cs

/-- An array or object that is still open; its contents are kept in reverse. -/
inductive Frame where
  | array (items : List Value)
  /-- An object that waits for the value of `key`. -/
  | object (members : List (Option String × Value)) (key : Option String)
  deriving Repr

/-- What may come next. -/
inductive Expect where
  /-- A value, or the end of an array that was just opened. -/
  | firstItem
  /-- A value. -/
  | value
  /-- A key, or the end of an object that was just opened. -/
  | firstKey (members : List (Option String × Value))
  /-- A key. -/
  | key (members : List (Option String × Value))
  /-- The colon after a key. -/
  | colon (members : List (Option String × Value)) (key : Option String)
  /-- A comma or the end of the innermost container, or of the text. -/
  | after (v : Value)
  deriving Repr

/-- Puts tokens together, given the open containers, the innermost first. -/
def assemble : List Frame → Expect → List Token → Option Value
  | [], .after v, [] => some v
  | _, _, [] => none
  | stack, .firstItem, .closeBracket :: ts =>
    match stack with
    | .array items :: outer => assemble outer (.after (.array items.reverse)) ts
    | _ => none
  | stack, expect, .openBracket :: ts =>
    match expect with
    | .firstItem | .value => assemble (.array [] :: stack) .firstItem ts
    | _ => none
  | stack, expect, .openBrace :: ts =>
    match expect with
    | .firstItem | .value => assemble stack (.firstKey []) ts
    | _ => none
  | stack, expect, .string s :: ts =>
    match expect with
    | .firstItem | .value => assemble stack (.after (.string s)) ts
    | .firstKey members | .key members => assemble stack (.colon members s) ts
    | _ => none
  | stack, expect, .word cs :: ts =>
    match expect, wordValue? cs with
    | .firstItem, some v | .value, some v => assemble stack (.after v) ts
    | _, _ => none
  | stack, .colon members key, .colon :: ts => assemble (.object members key :: stack) .value ts
  | stack, .firstKey members, .closeBrace :: ts =>
    assemble stack (.after (.object members.reverse)) ts
  | .array items :: outer, .after v, .comma :: ts =>
    assemble (.array (v :: items) :: outer) .value ts
  | .object members key :: outer, .after v, .comma :: ts =>
    assemble outer (.key ((key, v) :: members)) ts
  | .array items :: outer, .after v, .closeBracket :: ts =>
    assemble outer (.after (.array (v :: items).reverse)) ts
  | .object members key :: outer, .after v, .closeBrace :: ts =>
    assemble outer (.after (.object ((key, v) :: members).reverse)) ts
  | _, _, _ :: _ => none

/-- Reads a JSON text. -/
def parse (text : String) : Option Value := do
  assemble [] .value (← Token.ofChars text.toList)

end Json
end SidecarProxy
