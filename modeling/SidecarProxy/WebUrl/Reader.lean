import SidecarProxy.WebUrl.Domain
import SidecarProxy.WebUrl.Numeric

/-!
# Reading URLs

A URL is cut into its scheme, its authority, its path, its query and its
fragment, in this order.  In a scheme of the web any number of slashes may stand
in front of the authority, and the host may not be missing.
-/

namespace SidecarProxy
namespace WebUrl

open Text

/-- A character that does not count anywhere in a URL. -/
def isSkipped (c : Char) : Bool :=
  c == '\t' || c == '\n' || c == '\r'

/-- A control character or a blank. -/
def isControlOrBlank (c : Char) : Bool :=
  c.toNat ≤ 0x20

/-- The characters of a URL that count. -/
def significant (cs : List Char) : List Char :=
  ((cs.dropWhile isControlOrBlank).reverse.dropWhile isControlOrBlank).reverse.filter
    (!isSkipped ·)

/-- The scheme in small letters, and what follows its colon. -/
def readScheme (cs : List Char) : Option (String × List Char) :=
  let isSchemeChar := fun c : Char => c.isAlphanum || c == '+' || c == '-' || c == '.'
  match cs.takeWhile isSchemeChar, cs.dropWhile isSchemeChar with
  | c :: name, ':' :: rest =>
    if c.isAlpha then some (lowerAscii (String.ofList (c :: name)), rest) else none
  | _, _ => none

/-- A character before which an authority ends. -/
def endsAuthority (kind : SchemeKind) (c : Char) : Bool :=
  c == '/' || c == '?' || c == '#' || (kind != .other && c == '\\')

/-- The value of two hexadecimal digits. -/
def byteOf? (a b : Char) : Option UInt8 :=
  match hexValue? a, hexValue? b with
  | some x, some y => some (UInt8.ofNat (16 * x + y))
  | _, _ => none

/-- The bytes of text in which percent signs with two digits stand for bytes. -/
def percentDecode : List Char → List UInt8
  | [] => []
  | '%' :: a :: b :: rest =>
    match byteOf? a b with
    | some byte => byte :: percentDecode rest
    | none => utf8Chars ['%'] ++ percentDecode (a :: b :: rest)
  | c :: rest => utf8Chars [c] ++ percentDecode rest

/-- Text from bytes. -/
def textOfBytes? (bytes : List UInt8) : Option (List Char) :=
  (String.fromUTF8? ⟨bytes.toArray⟩).map String.toList

/-- The address between the brackets around a host. -/
def readBracketed (cs : List Char) : Except ParseError WebHost :=
  if cs.getLast? = some ']' then
    match parseIpv6? cs.dropLast with
    | some groups => .ok (.ipv6 groups)
    | none => .error .invalidIpv6
  else .error .invalidIpv6

/-- The host that a name is, once it is in ASCII. -/
def ofAsciiName (name : List Char) : Except ParseError WebHost :=
  if name.isEmpty then .error .emptyHost
  else if endsInNumber name then
    match parseIpv4? name with
    | some address => .ok (.ipv4 address)
    | none => .error .invalidIpv4
  else .ok (.domain (String.ofList name))

/-- Reads the host of a scheme of the web. -/
def readWebHost (cs : List Char) : Except ParseError WebHost :=
  match cs with
  | '[' :: rest => readBracketed rest
  | _ =>
    match (textOfBytes? (percentDecode cs)).bind asciiName? with
    | some name => ofAsciiName name
    | none => .error .invalidName

/-- A character that may not occur in the host of any other scheme. -/
def isForbiddenAnywhere (c : Char) : Bool :=
  c.toNat = 0 || [' ', '#', '/', ':', '<', '>', '?', '@', '[', '\\', ']', '^', '|'].contains c

/-- Reads the host of any other scheme. -/
def readOtherHost (cs : List Char) : Except ParseError WebHost :=
  match cs with
  | '[' :: rest => readBracketed rest
  | _ =>
    if cs.any isForbiddenAnywhere then .error .invalidHostCharacter
    else .ok (.other (encodeText isControlOrWide cs))

/-- The host of an authority and what follows it; a colon inside brackets belongs to the host. -/
def cutHost : Bool → List Char → List Char × List Char
  | _, [] => ([], [])
  | inBrackets, c :: rest =>
    if c == ':' && !inBrackets then ([], c :: rest)
    else
      let inside := if c == '[' then true else if c == ']' then false else inBrackets
      let (host, rest) := cutHost inside rest
      (c :: host, rest)

/-- Reads the number after the host, behind which a backslash may begin the path. -/
def readPort (scheme : String) (cs : List Char) :
    Except ParseError (Option Nat × List Char) :=
  let rest := cs.dropWhile Char.isDigit
  if !rest.isEmpty && rest.head? != some '\\' then .error .invalidPort
  else
    match decimal? (cs.takeWhile Char.isDigit) with
    | none => .ok (none, rest)
    | some n =>
      if 65535 < n then .error .invalidPort
      else .ok (if some n = usualPort scheme then none else some n, rest)

/-- User name and password in front of the last at sign, and what follows it. -/
def cutUser (cs : List Char) : Option (List Char) × List Char :=
  let back := cs.reverse.takeWhile (· != '@')
  if back.length = cs.length then (none, cs)
  else (some (cs.take (cs.length - back.length - 1)), back.reverse)

/-- An authority. -/
structure Authority where
  username : String
  password : String
  host : Option WebHost
  portNumber : Option Nat
  /-- The beginning of the path. -/
  rest : List Char

/-- The host that the text of an authority has, unless there may be none and is none. -/
def readHost (kind : SchemeKind) (hasUser : Bool) (host rest : List Char) :
    Except ParseError (Option WebHost) :=
  if host.isEmpty then
    if kind = .web || hasUser || !rest.isEmpty then .error .emptyHost else .ok none
  else if kind = .web then (readWebHost host).map some
  else (readOtherHost host).map some

/-- Reads an authority; an at sign alone is one only where the URL ends behind it. -/
def readAuthority (scheme : String) (cs : List Char) (atEnd : Bool) :
    Except ParseError Authority := do
  let (user, afterUser) := cutUser cs
  let name := (user.getD []).takeWhile (· != ':')
  let password := ((user.getD []).dropWhile (· != ':')).drop 1
  let hasUser := !name.isEmpty || !password.isEmpty
  if user = some [] && afterUser.isEmpty && !atEnd then throw .emptyHost
  let (host, rest) := cutHost false afterUser
  let host ← readHost (kindOf scheme) hasUser host rest
  let (portNumber, rest) ← readPort scheme (rest.drop 1)
  return {
    username := encodeText inUserSet name
    password := encodeText inUserSet password
    host := host
    portNumber := portNumber
    rest := rest }

/-- Whether a segment means the one above. -/
def isDoubleDot (segment : List Char) : Bool :=
  ["..", ".%2e", "%2e.", "%2e%2e"].contains (lowerAscii (String.ofList segment))

/-- Whether a segment means nothing. -/
def isSingleDot (segment : List Char) : Bool :=
  [".", "%2e"].contains (lowerAscii (String.ofList segment))

/-- The segments of a path, dots resolved; those that are read stand in reverse. -/
def resolve (done : List String) : List (List Char) → List String
  | [] => done.reverse
  | [last] =>
    if isDoubleDot last then ("" :: done.drop 1).reverse
    else if isSingleDot last then ("" :: done).reverse
    else (encodeText inPathSet last :: done).reverse
  | segment :: rest =>
    if isDoubleDot segment then resolve (done.drop 1) rest
    else if isSingleDot segment then resolve done rest
    else resolve (encodeText inPathSet segment :: done) rest

/-- Reads a path of segments; a slash in front does not begin a segment of its own. -/
def readSegments (kind : SchemeKind) (cs : List Char) : List String :=
  let isSlash := fun c : Char => c == '/' || (kind != .other && c == '\\')
  let body := match cs with
    | c :: rest => if isSlash c then rest else cs
    | [] => []
  if cs.isEmpty && kind = .other then [] else resolve [] (fieldsWhere isSlash body)

/-- The parts of the text after an authority: the path, the query and the fragment. -/
def cutTail (cs : List Char) : List Char × Option (List Char) × Option (List Char) :=
  let beforeFragment := cs.takeWhile (· != '#')
  let fragment := match cs.dropWhile (· != '#') with
    | [] => none
    | _ :: rest => some rest
  let query := match beforeFragment.dropWhile (· != '?') with
    | [] => none
    | _ :: rest => some rest
  (beforeFragment.takeWhile (· != '?'), query, fragment)

/-- Puts the query and the fragment of the text behind a URL. -/
def withTail (web : Bool) (query fragment : Option (List Char)) (url : WebUrl) : WebUrl :=
  { url with
    query := query.map (encodeText (inQuerySet web))
    fragment := fragment.map (encodeText inFragmentSet) }

/-- Reads what follows the slashes in front of an authority. -/
def readAfterSlashes (scheme : String) (cs : List Char) : Except ParseError WebUrl := do
  let kind := kindOf scheme
  let authority := cs.takeWhile (!endsAuthority kind ·)
  let tail := cs.dropWhile (!endsAuthority kind ·)
  let a ← readAuthority scheme authority tail.isEmpty
  let (path, query, fragment) := cutTail (a.rest ++ tail)
  return withTail (kind = .web) query fragment {
    scheme := scheme, username := a.username, password := a.password, host := a.host
    portNumber := a.portNumber, path := .segments (readSegments kind path) }

/-- Whether a slash of either kind stands in front. -/
def startsWithSlash (cs : List Char) : Bool :=
  cs.head? = some '/' || cs.head? = some '\\'

/-- Whether text is the letter of a drive. -/
def isDrive (cs : List Char) : Bool :=
  match cs with
  | [c, ':'] | [c, '|'] => c.isAlpha
  | _ => false

/-- Reads what follows the colon of a file URL. -/
def readFile (cs : List Char) : Except ParseError WebUrl := do
  let twoSlashes := startsWithSlash cs && startsWithSlash (cs.drop 1)
  let afterSlashes := if twoSlashes then cs.drop 2 else cs
  let hostText :=
    if twoSlashes then afterSlashes.takeWhile (!endsAuthority .file ·) else []
  let host ←
    if hostText.isEmpty || isDrive hostText then pure none
    else (readWebHost hostText).map some
  let afterHost := if host.isSome then afterSlashes.drop hostText.length else afterSlashes
  let (path, query, fragment) := cutTail afterHost
  return withTail true query fragment {
    scheme := "file"
    host := if host = some (.domain "localhost") then none else host
    path := .segments (readSegments .file path) }

/-- Reads what follows the colon of a scheme without rules. -/
def readOther (scheme : String) (cs : List Char) : Except ParseError WebUrl :=
  match cs with
  | '/' :: '/' :: rest => readAfterSlashes scheme rest
  | _ =>
    let (path, query, fragment) := cutTail cs
    .ok (withTail false query fragment {
      scheme := scheme
      path := if path.head? = some '/' then .segments (readSegments .other path)
        else .other (encodeText isControlOrWide path) })

/-- Reads a URL. -/
def parse (text : String) : Except ParseError WebUrl :=
  match readScheme (significant text.toList) with
  | none => .error .relative
  | some (scheme, rest) =>
    match kindOf scheme with
    | .web => readAfterSlashes scheme (rest.dropWhile fun c => c == '/' || c == '\\')
    | .file => readFile rest
    | .other => readOther scheme rest

/-- Whether other URLs can be made from this one by changing its path. -/
def hasSegments (url : WebUrl) : Bool :=
  match url.path with
  | .segments _ => true
  | .other _ => false

/-- Text as one segment of a path. -/
def segmentText (backslash : Bool) (s : String) : String :=
  encodeText (inSegmentSet backslash) (s.toList.filter (!isSkipped ·))

/--
The segments with further ones behind, in place of an empty one at the end.  The
path that is a slash alone is what further segments stand behind directly.
-/
def extendSegments (backslash : Bool) (names more : List String) : List String :=
  let kept := if names.getLast? = some "" then names.dropLast else names
  (if kept = [""] then [] else kept) ++
    (more.filter fun s => s != "." && s != "..").map (segmentText backslash)

/-- The URL with further segments at the end of its path. -/
def extend (url : WebUrl) (more : List String) : WebUrl :=
  match url.path with
  | .segments names =>
    { url with path := .segments (extendSegments (kindOf url.scheme != .other) names more) }
  | .other _ => url

end WebUrl
end SidecarProxy
