import SidecarProxy.Text.Letters

/-!
# Strings of TOML

A string stands in double quotes, where a backslash begins an escape, or in
single quotes, where every character stands for itself.  Three quotes open a
string that may go over several lines; a line end right after them does not
count, and up to two quotes may stand in front of the three that close it.

Every reader gives what it has read and the characters that are left.
-/

namespace SidecarProxy
namespace Toml

open Text

/-- A blank inside a line. -/
def isSpace (c : Char) : Bool :=
  c == ' ' || c == '\t'

/-- The text without blanks in front. -/
def skipSpaces (cs : List Char) : List Char :=
  cs.dropWhile isSpace

/-- What follows the end of a line, if the text begins with one. -/
def afterNewline? : List Char → Option (List Char)
  | '\n' :: rest => some rest
  | '\r' :: '\n' :: rest => some rest
  | _ => none

/-- A character that may stand in a string or a comment: no control character but the tab. -/
def isPlain (c : Char) : Bool :=
  c == '\t' || (0x20 ≤ c.toNat && c.toNat != 0x7f)

/-- The number that hexadecimal digits write. -/
def hexNumber? (cs : List Char) : Option Nat :=
  cs.foldlM (fun n c => (hexValue? c).map (16 * n + ·)) 0

/-- The character of a number, unless the number is no character. -/
def charOf? (n : Nat) : Option Char :=
  if h : n.isValidChar then some (Char.ofNatAux n h) else none

/-- The character of a short escape. -/
def escaped? (c : Char) : Option Char :=
  match c with
  | 'b' => some '\x08'
  | 't' => some '\t'
  | 'n' => some '\n'
  | 'f' => some '\x0c'
  | 'r' => some '\r'
  | '"' => some '"'
  | '\\' => some '\\'
  | _ => none

/-- The character of an escape with digits. -/
def numbered? (digits : List Char) : Option Char :=
  (hexNumber? digits).bind charOf?

/-- Puts a character in front of what was read. -/
def consRead (c : Option Char) (r : Option (List Char × List Char)) : Option (List Char × List Char) :=
  match c, r with
  | some c, some (cs, rest) => some (c :: cs, rest)
  | _, _ => none

/-- Reads a string in double quotes, after the first quote. -/
def basicString : List Char → Option (List Char × List Char)
  | [] => none
  | '"' :: rest => some ([], rest)
  | '\\' :: 'u' :: a :: b :: c :: d :: rest => consRead (numbered? [a, b, c, d]) (basicString rest)
  | '\\' :: 'U' :: a :: b :: c :: d :: e :: f :: g :: h :: rest =>
    consRead (numbered? [a, b, c, d, e, f, g, h]) (basicString rest)
  | '\\' :: c :: rest => consRead (escaped? c) (basicString rest)
  | c :: rest => if isPlain c && c != '\\' then consRead (some c) (basicString rest) else none

/-- Reads a string in single quotes, after the first quote. -/
def literalString : List Char → Option (List Char × List Char)
  | [] => none
  | '\'' :: rest => some ([], rest)
  | c :: rest => if isPlain c then consRead (some c) (literalString rest) else none

/-- Whether a line ends here, blanks apart. -/
def atLineEnd (cs : List Char) : Bool :=
  (afterNewline? (skipSpaces cs)).isSome

/--
Reads a string in three double quotes, after the first line end.  While `skipping`,
which a backslash at the end of a line begins, blanks and line ends do not count.
-/
def basicLines (skipping : Bool) : List Char → Option (List Char × List Char)
  | [] => none
  | '"' :: '"' :: '"' :: '"' :: '"' :: rest => some (['"', '"'], rest)
  | '"' :: '"' :: '"' :: '"' :: rest => some (['"'], rest)
  | '"' :: '"' :: '"' :: rest => some ([], rest)
  | '\\' :: 'u' :: a :: b :: c :: d :: rest =>
    consRead (numbered? [a, b, c, d]) (basicLines false rest)
  | '\\' :: 'U' :: a :: b :: c :: d :: e :: f :: g :: h :: rest =>
    consRead (numbered? [a, b, c, d, e, f, g, h]) (basicLines false rest)
  | '\r' :: '\n' :: rest =>
    if skipping then basicLines true rest else consRead (some '\n') (basicLines false rest)
  | '\n' :: rest =>
    if skipping then basicLines true rest else consRead (some '\n') (basicLines false rest)
  | '\\' :: c :: rest =>
    if atLineEnd (c :: rest) then basicLines true (c :: rest)
    else consRead (escaped? c) (basicLines false rest)
  | c :: rest =>
    if skipping && isSpace c then basicLines true rest
    else if isPlain c && c != '\\' then consRead (some c) (basicLines false rest)
    else none

/-- Reads a string in three single quotes, after the first line end. -/
def literalLines : List Char → Option (List Char × List Char)
  | [] => none
  | '\'' :: '\'' :: '\'' :: '\'' :: '\'' :: rest => some (['\'', '\''], rest)
  | '\'' :: '\'' :: '\'' :: '\'' :: rest => some (['\''], rest)
  | '\'' :: '\'' :: '\'' :: rest => some ([], rest)
  | '\r' :: '\n' :: rest => consRead (some '\n') (literalLines rest)
  | '\n' :: rest => consRead (some '\n') (literalLines rest)
  | c :: rest => if isPlain c then consRead (some c) (literalLines rest) else none

/-- The text without the line end that it begins with. -/
def dropNewline (cs : List Char) : List Char :=
  (afterNewline? cs).getD cs

/-- Reads any string. -/
def string : List Char → Option (List Char × List Char)
  | '"' :: '"' :: '"' :: rest => basicLines false (dropNewline rest)
  | '"' :: rest => basicString rest
  | '\'' :: '\'' :: '\'' :: rest => literalLines (dropNewline rest)
  | '\'' :: rest => literalString rest
  | _ => none

/-- A character of a bare key. -/
def isBare (c : Char) : Bool :=
  c.isAlphanum || c == '-' || c == '_'

/-- Reads one part of a key. -/
def keyPart : List Char → Option (List Char × List Char)
  | '"' :: rest => basicString rest
  | '\'' :: rest => literalString rest
  | cs =>
    if (cs.takeWhile isBare).isEmpty then none
    else some (cs.takeWhile isBare, cs.dropWhile isBare)

/-- The most parts that a key may have, and the most levels of nesting of values. -/
def depthLimit : Nat := 79

/-- Reads the parts of a key, with dots between them, at most so many. -/
def keyParts : Nat → List Char → Option (List String × List Char)
  | 0, _ => none
  | n + 1, cs => do
    let (part, rest) ← keyPart (skipSpaces cs)
    match skipSpaces rest with
    | '.' :: rest =>
      let (parts, rest) ← keyParts n rest
      return (String.ofList part :: parts, rest)
    | rest => return ([String.ofList part], rest)

/-- Reads a key. -/
def key (cs : List Char) : Option (List String × List Char) :=
  keyParts depthLimit cs

end Toml
end SidecarProxy
