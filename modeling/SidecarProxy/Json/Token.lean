import SidecarProxy.Text.Letters

/-!
# Tokens of JSON text

Text is cut into punctuation, strings and words.  A word is a literal or a
number; a string is kept as the list of the code points that it writes, and
halves of surrogate pairs that stand next to each other are joined afterwards.
-/

namespace SidecarProxy
namespace Json

open Text

/-- A token of JSON text. -/
inductive Token where
  | openBrace
  | closeBrace
  | openBracket
  | closeBracket
  | colon
  | comma
  /-- A string; nothing when half of a surrogate pair stands alone. -/
  | string (text : Option String)
  /-- A literal or a number, not yet checked. -/
  | word (chars : List Char)
  deriving DecidableEq, Repr

namespace Token

/-- Where the scanner stands; what was read of a token is kept in reverse. -/
inductive Scan where
  | between
  | inWord (chars : List Char)
  | inString (points : List Nat)
  | inEscape (points : List Nat)
  /-- Inside the digits of `\u`; `left` digits are still to come. -/
  | inDigits (points : List Nat) (left value : Nat)
  deriving Repr

/-- The blank characters of JSON. -/
def isSpace (c : Char) : Bool :=
  c == ' ' || c == '\n' || c == '\t' || c == '\r'

/-- The token of a punctuation character. -/
def punctuation? (c : Char) : Option Token :=
  if c == '\x7b' then some openBrace
  else if c == '\x7d' then some closeBrace
  else if c == '[' then some openBracket
  else if c == ']' then some closeBracket
  else if c == ':' then some colon
  else if c == ',' then some comma
  else none

/-- The code point of a short escape. -/
def escaped? (c : Char) : Option Nat :=
  match c with
  | '"' | '\\' | '/' => some c.toNat
  | 'b' => some 0x08
  | 'f' => some 0x0c
  | 'n' => some 0x0a
  | 'r' => some 0x0d
  | 't' => some 0x09
  | _ => none

/-- The first half of a surrogate pair. -/
def isHighHalf (n : Nat) : Bool := 0xd800 ≤ n && n < 0xdc00

/-- The second half of a surrogate pair. -/
def isLowHalf (n : Nat) : Bool := 0xdc00 ≤ n && n < 0xe000

/-- The characters of code points; nothing when half of a pair stands alone. -/
def charsOfPoints : List Nat → Option (List Char)
  | [] => some []
  | [n] => if isHighHalf n || isLowHalf n then none else some [Char.ofNat n]
  | n :: m :: rest =>
    if isHighHalf n && isLowHalf m then
      (charsOfPoints rest).map (Char.ofNat (0x10000 + (n - 0xd800) * 0x400 + (m - 0xdc00)) :: ·)
    else if isHighHalf n || isLowHalf n then none
    else (charsOfPoints (m :: rest)).map (Char.ofNat n :: ·)

/-- The string token of code points in reverse. -/
def ofPoints (points : List Nat) : Token :=
  .string ((charsOfPoints points.reverse).map String.ofList)

/-- The tokens of text, the scanner standing at `s`; nothing when the text cannot be cut. -/
def scan (s : Scan) : List Char → Option (List Token)
  | [] =>
    match s with
    | .between => some []
    | .inWord chars => some [.word chars.reverse]
    | _ => none
  | c :: rest =>
    match s with
    | .between =>
      if isSpace c then scan .between rest
      else if c == '"' then scan (.inString []) rest
      else
        match punctuation? c with
        | some t => (scan .between rest).map (t :: ·)
        | none => scan (.inWord [c]) rest
    | .inWord chars =>
      if isSpace c then (scan .between rest).map (.word chars.reverse :: ·)
      else if c == '"' then (scan (.inString []) rest).map (.word chars.reverse :: ·)
      else
        match punctuation? c with
        | some t => (scan .between rest).map fun ts => .word chars.reverse :: t :: ts
        | none => scan (.inWord (c :: chars)) rest
    | .inString points =>
      if c == '"' then (scan .between rest).map (ofPoints points :: ·)
      else if c == '\\' then scan (.inEscape points) rest
      else if c.toNat < 0x20 then none
      else scan (.inString (c.toNat :: points)) rest
    | .inEscape points =>
      if c == 'u' then scan (.inDigits points 4 0) rest
      else
        match escaped? c with
        | some n => scan (.inString (n :: points)) rest
        | none => none
    | .inDigits points left value =>
      match hexValue? c with
      | none => none
      | some d =>
        if left ≤ 1 then scan (.inString ((16 * value + d) :: points)) rest
        else scan (.inDigits points (left - 1) (16 * value + d)) rest

/-- The tokens of text. -/
def ofChars (cs : List Char) : Option (List Token) :=
  scan .between cs

end Token
end Json
end SidecarProxy
