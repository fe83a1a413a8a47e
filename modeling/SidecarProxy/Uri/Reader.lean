import SidecarProxy.Text.Letters
import SidecarProxy.Text.Utf8
import SidecarProxy.Uri.Basic

/-!
# Reading URIs

`Uri.parse` reads the forms of `Uri`.  Text that starts with a slash is a path;
any other text has a scheme and an authority, or an authority alone.
-/

namespace SidecarProxy
namespace Uri

open Text

/-- The characters of a scheme. -/
def isSchemeChar (c : Char) : Bool :=
  c.isAlphanum || c == '+' || c == '-' || c == '.' || c == '~'

/-- The characters of an authority, brackets, colons and at signs included. -/
def isAuthorityChar (c : Char) : Bool :=
  c.isAlphanum || c ∈ "!$&'()*+,-.:;=@[]_~".toList

/-- The characters that end an authority. -/
def endsAuthority (c : Char) : Bool :=
  c == '/' || c == '?' || c == '#'

/-- The characters that a path may hold as they are. -/
def isPathChar (c : Char) : Bool :=
  let n := c.toNat
  n == 0x21 || n == 0x22 || (0x24 ≤ n && n ≤ 0x3b) || n == 0x3d ||
    (0x40 ≤ n && n ≤ 0x5f) || (0x61 ≤ n && n != 0x7f)

/-- The characters that a query may hold as they are. -/
def isQueryChar (c : Char) : Bool :=
  let n := c.toNat
  n == 0x21 || (0x24 ≤ n && n ≤ 0x3b) || n == 0x3d || (0x3f ≤ n && n != 0x7f)

/-- What reading an authority has seen so far. -/
structure AuthorityScan where
  /-- Colons since the last at sign or bracket. -/
  colons : Nat := 0
  /-- Whether a bracket was opened. -/
  opened : Bool := false
  /-- Whether a bracket was closed. -/
  closed : Bool := false
  /-- Whether a percent sign stands outside the user information and the brackets. -/
  percent : Bool := false

/-- One character of an authority. -/
def AuthorityScan.step (s : AuthorityScan) (c : Char) : Except ParseError AuthorityScan :=
  if c == ':' then
    if s.colons ≥ 8 then .error .invalidAuthority else .ok { s with colons := s.colons + 1 }
  else if c == '[' then
    if s.percent || s.opened then .error .invalidAuthority else .ok { s with opened := true }
  else if c == ']' then
    if !s.opened || s.closed then .error .invalidAuthority
    else .ok { s with closed := true, colons := 0, percent := false }
  else if c == '@' then .ok { s with colons := 0, percent := false }
  else if c == '%' then .ok { s with percent := true }
  else if isAuthorityChar c then .ok s
  else .error .invalidCharacter

/-- Checks an authority that was cut out of a URI. -/
def checkAuthority (cs : List Char) : Except ParseError Unit := do
  let s ← cs.foldlM AuthorityScan.step {}
  if s.opened != s.closed || s.colons > 1 || cs.getLast? == some '@' || s.percent then
    .error .invalidAuthority
  else .ok ()

/-- The authority at the front of non-empty text, and what follows it. -/
def splitAuthority (cs : List Char) : Except ParseError (List Char × List Char) := do
  if cs.isEmpty then .error .empty
  else
    let authority := cs.takeWhile (!endsAuthority ·)
    checkAuthority authority
    return (authority, cs.dropWhile (!endsAuthority ·))

/-- The scheme at the front of text, and what follows `://`. -/
def splitScheme (cs : List Char) : Except ParseError (Option (List Char × List Char)) :=
  let name := cs.takeWhile isSchemeChar
  match cs.dropWhile isSchemeChar with
  | ':' :: '/' :: '/' :: rest =>
    if cs.length ≤ 3 then .ok none
    else if equalsIgnoringCase name "http".toList then .ok (some ("http".toList, rest))
    else if equalsIgnoringCase name "https".toList then .ok (some ("https".toList, rest))
    else if name.length > maxSchemeLength then .error .schemeTooLong
    else .ok (some (name, rest))
  | _ => .ok none

/-- The path and the query of text; a fragment is dropped. -/
def readTarget (cs : List Char) : Except ParseError (List Char × Option (List Char)) :=
  let path := cs.takeWhile fun c => c != '?' && c != '#'
  if !path.all isPathChar then .error .invalidCharacter
  else
    match cs.dropWhile fun c => c != '?' && c != '#' with
    | '?' :: rest =>
      let query := rest.takeWhile (· != '#')
      if query.all isQueryChar then .ok (path, some query) else .error .invalidCharacter
    | _ => .ok (path, none)

/-- A URI of the given parts. -/
def ofParts (scheme : Option (List Char)) (authority : List Char)
    (target : List Char × Option (List Char)) : Uri where
  scheme := scheme.map String.ofList
  authority := String.ofList authority
  writtenPath := String.ofList target.1
  query := target.2.map String.ofList

/-- Reads text that does not start with a slash. -/
def readFull (cs : List Char) : Except ParseError Uri := do
  match ← splitScheme cs with
  | none =>
    let (authority, rest) ← splitAuthority cs
    if rest.isEmpty then return ofParts none authority ([], none)
    else .error .invalidFormat
  | some (scheme, rest) =>
    let (authority, rest) ← splitAuthority rest
    if authority.isEmpty then .error .invalidFormat
    else return ofParts (some scheme) authority (← readTarget rest)

/-- Reads a URI from characters. -/
def ofChars (cs : List Char) : Except ParseError Uri :=
  if (utf8Chars cs).length > maxLength then .error .tooLong
  else
    match cs with
    | [] => .error .empty
    | ['*'] => .ok (ofParts none [] (['*'], none))
    | '/' :: _ => do return ofParts none [] (← readTarget cs)
    | [c] =>
      if endsAuthority c then .error .invalidCharacter else do
        let (authority, _) ← splitAuthority [c]
        return ofParts none authority ([], none)
    | _ => readFull cs

/-- Reads a URI. -/
def parse (text : String) : Except ParseError Uri :=
  ofChars text.toList

/-- The number below 65536 after the last colon of the authority. -/
def portNumber? (u : Uri) : Option Nat :=
  let reversed := u.authority.toList.reverse
  if reversed.contains ':' then unsigned? 16 (reversed.takeWhile (· != ':')).reverse
  else none

end Uri
end SidecarProxy
