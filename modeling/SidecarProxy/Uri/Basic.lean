/-!
# Uniform resource identifiers

A URI as it appears in a request line or as the address of a module: a
scheme, an authority, a path and a query, each possibly missing.  A fragment is
never kept.  Three forms occur: the absolute form (`http://host/path?query`),
the origin form (`/path?query` or `*`) and the authority form (`host:80`).
-/

namespace SidecarProxy

/-- The parts of a URI as they were written, the scheme in small letters if it is a web scheme. -/
structure Uri where
  /-- The scheme, when there is one. -/
  scheme : Option String
  /-- User information, host and the number after it; empty when there is no authority. -/
  authority : String
  /-- The path as written; empty when nothing was written. -/
  writtenPath : String
  /-- The text after the question mark. -/
  query : Option String
  deriving DecidableEq, Repr, Inhabited

namespace Uri

/-- Why text is not a URI. -/
inductive ParseError where
  | empty
  | invalidCharacter
  | invalidAuthority
  | invalidFormat
  | tooLong
  | schemeTooLong
  deriving DecidableEq, Repr

/-- The wording of a refusal. -/
def ParseError.message : ParseError → String
  | .empty => "empty string"
  | .invalidCharacter => "invalid uri character"
  | .invalidAuthority => "invalid authority"
  | .invalidFormat => "invalid format"
  | .tooLong => "uri too long"
  | .schemeTooLong => "scheme too long"

/-- The longest URI, in bytes. -/
def maxLength : Nat := 65534

/-- The longest scheme, in characters. -/
def maxSchemeLength : Nat := 64

/-- Whether a path was written or is implied by a scheme. -/
def hasPath (u : Uri) : Bool :=
  u.writtenPath != "" || u.query.isSome || u.scheme.isSome

/-- The path: `/` when it is implied, and empty in the authority form. -/
def path (u : Uri) : String :=
  if u.writtenPath != "" then u.writtenPath
  else if u.hasPath then "/"
  else ""

/-- Path and query, joined as they are sent. -/
def pathAndQuery (u : Uri) : String :=
  match u.query with
  | none => u.path
  | some q => s!"{u.path}?{q}"

/-- The authority after its user information. -/
def hostAndPort (u : Uri) : List Char :=
  (u.authority.toList.reverse.takeWhile (· != '@')).reverse

/-- The host; an address in brackets keeps them. -/
def host (u : Uri) : String :=
  match u.hostAndPort with
  | '[' :: rest => String.ofList ('[' :: rest.takeWhile (· != ']') ++ [']'])
  | text => String.ofList (text.takeWhile (· != ':'))

/-- The URI in writing. -/
def render (u : Uri) : String :=
  let scheme := match u.scheme with
    | none => ""
    | some s => s ++ "://"
  scheme ++ u.authority ++ u.pathAndQuery

end Uri
end SidecarProxy
