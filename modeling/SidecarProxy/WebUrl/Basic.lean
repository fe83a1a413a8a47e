import SidecarProxy.Text.Utf8

/-!
# URLs

A URL as browsers read it: blanks around it and line ends inside it do not
count, backslashes count as slashes in web schemes, and every character that
may not stand where it stands is written as percent signs with the digits of its
bytes.
-/

namespace SidecarProxy

/-- The host of a URL. -/
inductive WebHost where
  /-- A name, in ASCII. -/
  | domain (name : String)
  /-- Four bytes, as one number. -/
  | ipv4 (address : Nat)
  /-- Eight groups of sixteen bits. -/
  | ipv6 (groups : List Nat)
  /-- Text that no rule of the web applies to. -/
  | other (text : String)
  deriving DecidableEq, Repr

/-- The path of a URL. -/
inductive WebPath where
  /-- Segments, each after a slash. -/
  | segments (names : List String)
  /-- Text without structure. -/
  | other (text : String)
  deriving DecidableEq, Repr

/-- The parts of a URL. -/
structure WebUrl where
  scheme : String
  username : String := ""
  password : String := ""
  host : Option WebHost := none
  /-- The number after the host, unless it is the usual one of the scheme. -/
  portNumber : Option Nat := none
  path : WebPath
  query : Option String := none
  fragment : Option String := none
  deriving DecidableEq, Repr

namespace WebUrl

/-- Why text is not a URL. -/
inductive ParseError where
  | relative
  | emptyHost
  | invalidPort
  | invalidIpv4
  | invalidIpv6
  | invalidName
  | invalidHostCharacter
  deriving DecidableEq, Repr

/-- The wording of an error. -/
def ParseError.message : ParseError → String
  | .relative => "relative URL without a base"
  | .emptyHost => "empty host"
  | .invalidPort => "invalid port number"
  | .invalidIpv4 => "invalid IPv4 address"
  | .invalidIpv6 => "invalid IPv6 address"
  | .invalidName => "invalid international domain name"
  | .invalidHostCharacter => "invalid domain character"

/-- The kind of a scheme. -/
inductive SchemeKind where
  /-- A scheme of the web. -/
  | web
  | file
  | other
  deriving DecidableEq, Repr

/-- The kind of a scheme in small letters. -/
def kindOf (scheme : String) : SchemeKind :=
  if ["http", "https", "ws", "wss", "ftp"].contains scheme then .web
  else if scheme = "file" then .file
  else .other

/-- The usual number after the host for a scheme. -/
def usualPort (scheme : String) : Option Nat :=
  if scheme = "http" || scheme = "ws" then some 80
  else if scheme = "https" || scheme = "wss" then some 443
  else if scheme = "ftp" then some 21
  else none

/-- A byte as a percent sign and two digits. -/
def percentByte (b : UInt8) : List Char :=
  let digit (n : Nat) : Char := (Nat.digitChar n).toUpper
  ['%', digit (b.toNat / 16), digit (b.toNat % 16)]

/-- A control character, or one outside ASCII. -/
def isControlOrWide (c : Char) : Bool :=
  c.toNat < 0x20 || 0x7e < c.toNat

/-- A character that is encoded in a fragment. -/
def inFragmentSet (c : Char) : Bool :=
  isControlOrWide c || [' ', '"', '<', '>', '\x60'].contains c

/-- A character that is encoded in a path. -/
def inPathSet (c : Char) : Bool :=
  inFragmentSet c || ['#', '?', '\x7b', '\x7d'].contains c

/-- A character that is encoded in a user name. -/
def inUserSet (c : Char) : Bool :=
  inPathSet c || ['/', ':', ';', '=', '@', '[', '\\', ']', '^', '|'].contains c

/-- A character that is encoded in a segment that is put into a path. -/
def inSegmentSet (web : Bool) (c : Char) : Bool :=
  inPathSet c || c == '/' || c == '%' || (web && c == '\\')

/-- A character that is encoded in a query. -/
def inQuerySet (web : Bool) (c : Char) : Bool :=
  isControlOrWide c || [' ', '"', '#', '<', '>'].contains c || (web && c == '\'')

/-- Characters with those of a set encoded. -/
def percentEncode (encoded : Char → Bool) (cs : List Char) : List Char :=
  cs.flatMap fun c => if encoded c then (Text.utf8Chars [c]).flatMap percentByte else [c]

/-- Text with the characters of a set encoded. -/
def encodeText (encoded : Char → Bool) (cs : List Char) : String :=
  String.ofList (percentEncode encoded cs)

end WebUrl
end SidecarProxy
