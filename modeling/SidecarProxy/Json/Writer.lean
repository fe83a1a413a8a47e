import SidecarProxy.Json.Basic
import SidecarProxy.Json.Token

/-!
# Writing JSON

A value is written without blanks between its tokens.  In a string only the
quotation mark, the backslash and the control characters are escaped, in the
shortest way that there is.
-/

namespace SidecarProxy
namespace Json

namespace Token

/-- The letter behind the backslash of a short escape, if there is one for a character. -/
def shortEscape? (c : Char) : Option Char :=
  match c with
  | '"' => some '"'
  | '\\' => some '\\'
  | '\x08' => some 'b'
  | '\x0c' => some 'f'
  | '\n' => some 'n'
  | '\r' => some 'r'
  | '\t' => some 't'
  | _ => none

/-- A character as it is written in a string. -/
def escape (c : Char) : List Char :=
  match shortEscape? c with
  | some letter => ['\\', letter]
  | none =>
    if c.toNat < 0x20 then
      ['\\', 'u', '0', '0', Nat.digitChar (c.toNat / 16), Nat.digitChar (c.toNat % 16)]
    else [c]

/-- The characters of a token; a string without a text is written as half of a surrogate pair. -/
def write : Token → List Char
  | openBrace => ['\x7b']
  | closeBrace => ['\x7d']
  | openBracket => ['[']
  | closeBracket => [']']
  | colon => [':']
  | comma => [',']
  | string (some s) => '"' :: (s.toList.flatMap escape ++ ['"'])
  | string none => ['"', '\\', 'u', 'd', '8', '0', '0', '"']
  | word chars => chars

/-- The word of an integer. -/
def ofInt (n : Int) : Token :=
  .word (if n < 0 then '-' :: Nat.toDigits 10 n.natAbs else Nat.toDigits 10 n.natAbs)

end Token

mutual

/-- The tokens of a value. -/
def Value.tokens : Value → List Token
  | .null => [.word ['n', 'u', 'l', 'l']]
  | .bool true => [.word ['t', 'r', 'u', 'e']]
  | .bool false => [.word ['f', 'a', 'l', 's', 'e']]
  | .integer n => [.ofInt n]
  | .fraction written => [.word written.toList]
  | .string s => [.string s]
  | .array [] => [.openBracket, .closeBracket]
  | .array (v :: rest) => .openBracket :: (v.tokens ++ Value.moreItems rest)
  | .object [] => [.openBrace, .closeBrace]
  | .object ((key, v) :: rest) =>
    .openBrace :: .string key :: .colon :: (v.tokens ++ Value.moreMembers rest)

/-- The tokens behind an item of an array, up to its end. -/
def Value.moreItems : List Value → List Token
  | [] => [.closeBracket]
  | v :: rest => .comma :: (v.tokens ++ Value.moreItems rest)

/-- The tokens behind a member of an object, up to its end. -/
def Value.moreMembers : List (Option String × Value) → List Token
  | [] => [.closeBrace]
  | (key, v) :: rest =>
    .comma :: .string key :: .colon :: (v.tokens ++ Value.moreMembers rest)

end

/-- The text that a value is written as. -/
def write (v : Value) : String :=
  String.ofList (v.tokens.flatMap Token.write)

end Json
end SidecarProxy
