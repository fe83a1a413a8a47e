import SidecarProxy.Toml.Number
import SidecarProxy.Toml.Tables

/-!
# Reading TOML

A document is a sequence of lines: headers of tables, keys with values, comments
and blank lines.  It is read as a record of its tables.
-/

namespace SidecarProxy
namespace Toml

/-- What follows a comment, which goes up to the end of its line. -/
def skipComment : List Char → List Char
  | '#' :: rest => rest.dropWhile isPlain
  | cs => cs

/-- What follows the rest of a line: blanks, a comment and the end of the line or of the text. -/
def endOfLine (cs : List Char) : Option (List Char) :=
  match skipComment (skipSpaces cs) with
  | [] => some []
  | rest => afterNewline? rest

/-- What follows blanks, comments and line ends, as many steps as given. -/
def skipLines : Nat → List Char → List Char
  | 0, cs => cs
  | n + 1, cs =>
    match skipSpaces cs with
    | '#' :: rest =>
      match afterNewline? (rest.dropWhile isPlain) with
      | some rest => skipLines n rest
      | none => '#' :: rest
    | cs =>
      match afterNewline? cs with
      | some rest => skipLines n rest
      | none => cs

/-- What follows blanks, comments and line ends. -/
def skipBlank (cs : List Char) : List Char :=
  skipLines cs.length cs

/-- Reads the items of an array, after its opening bracket, in at most so many steps. -/
def items (value : List Char → Option (Json.Value × List Char)) : Nat → List Char → Option (List Json.Value × List Char)
  | 0, _ => none
  | n + 1, cs =>
    match skipBlank cs with
    | ']' :: rest => some ([], rest)
    | cs => do
      let (v, rest) ← value cs
      match skipBlank rest with
      | ',' :: rest =>
        let (vs, rest) ← items value n rest
        return (v :: vs, rest)
      | ']' :: rest => return ([v], rest)
      | _ => none

/-- Reads a key, the equals sign and a value. -/
def pair (value : List Char → Option (Json.Value × List Char)) (cs : List Char) :
    Option ((List String × Json.Value) × List Char) := do
  let (path, cs) ← key cs
  let cs ← mark '=' cs
  let (v, rest) ← value (skipSpaces cs)
  return ((path, v), rest)

/-- Sets the value of a key in a table. -/
def setKey (path : List String) (v : Json.Value) (es : Entries) : Option Entries :=
  match path.getLast? with
  | none => none
  | some key => es.set key v path.dropLast true

/-- Reads the members of a table in braces, after the first one has begun. -/
def members (value : List Char → Option (Json.Value × List Char)) : Nat → Entries → List Char → Option (Entries × List Char)
  | 0, _, _ => none
  | n + 1, es, cs => do
    let ((path, v), rest) ← pair value cs
    let es ← setKey path v es
    match skipSpaces rest with
    | ',' :: rest => members value n es rest
    | '\x7d' :: rest => return (es, rest)
    | _ => none

/-- Reads a table in braces, after the opening one. -/
def braced (value : List Char → Option (Json.Value × List Char)) (cs : List Char) : Option (Json.Value × List Char) :=
  match skipSpaces cs with
  | '\x7d' :: rest => some (.object [], rest)
  | cs => (members value cs.length [] cs).map fun (es, rest) => (es.toValue, rest)

/-- Reads a value that is neither a list nor a table. -/
def scalar (cs : List Char) : Option (Json.Value × List Char) :=
  match cs with
  | '"' :: _ | '\'' :: _ => (string cs).map fun (s, rest) => (.ofText (String.ofList s), rest)
  | 't' :: 'r' :: 'u' :: 'e' :: rest => some (.bool true, rest)
  | 'f' :: 'a' :: 'l' :: 's' :: 'e' :: rest => some (.bool false, rest)
  | _ => number cs

/-- Reads a value; lists and tables may be nested so deeply. -/
def value : Nat → List Char → Option (Json.Value × List Char)
  | depth, '[' :: rest =>
    match depth with
    | 0 => none
    | depth + 1 =>
      (items (value depth) (rest.length + 1) rest).map fun (vs, rest) => (.array vs, rest)
  | depth, '\x7b' :: rest =>
    match depth with
    | 0 => none
    | depth + 1 => braced (value depth) rest
  | _, cs => scalar cs

/-- A document that has been read in part. -/
structure Document where
  /-- The path of the table to which lines belong. -/
  header : List String := []
  root : Entries := []
  deriving Inhabited

namespace Document

/-- Sets the value of a key in the current table. -/
def setKey (d : Document) (path : List String) (v : Json.Value) : Option Document :=
  (d.root.modify (Toml.setKey path v) d.header).map fun root => { d with root := root }

/-- Opens the table of a header. -/
def openWith (f : String → Entries → Option Entries) (d : Document) (path : List String) :
    Option Document :=
  match path.getLast? with
  | none => none
  | some key => (d.root.modify (f key) path.dropLast).map fun root => ⟨path, root⟩

end Document

/-- Reads a header after its opening brackets. -/
def header (closing : Nat) (cs : List Char) : Option (List String × List Char) := do
  let (path, cs) ← key cs
  let cs ← if closing = 2 then (mark ']' cs).bind (mark ']') else mark ']' cs
  return (path, cs)

/-- Reads one line that says something. -/
def statement (d : Document) (cs : List Char) : Option (Document × List Char) :=
  match cs with
  | '[' :: '[' :: rest => do
    let (path, rest) ← header 2 rest
    return (← d.openWith Entries.openNext path, rest)
  | '[' :: rest => do
    let (path, rest) ← header 1 rest
    return (← d.openWith Entries.openTable path, rest)
  | _ => do
    let ((path, v), rest) ← pair (value depthLimit) cs
    return (← d.setKey path v, rest)

/-- Reads lines, at most so many. -/
def lines : Nat → Document → List Char → Option Document
  | 0, _, _ => none
  | n + 1, d, cs =>
    match skipSpaces cs with
    | [] => some d
    | '#' :: rest => (endOfLine ('#' :: rest)).bind (lines n d)
    | cs =>
      match afterNewline? cs with
      | some rest => lines n d rest
      | none => do
        let (d, rest) ← statement d cs
        lines n d (← endOfLine rest)

/-- The text without a byte order mark in front. -/
def dropMark : List Char → List Char
  | '\ufeff' :: rest => rest
  | cs => cs

/-- Reads a TOML document. -/
def parse (text : String) : Option Json.Value :=
  let cs := dropMark text.toList
  (lines (cs.length + 1) {} cs).map fun d => d.root.toValue

end Toml
end SidecarProxy
