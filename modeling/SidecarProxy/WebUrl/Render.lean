import SidecarProxy.WebUrl.Numeric

/-!
# Writing URLs

A URL is written with its parts in order.  The longest run of at least two zero
groups of an address is written as `::`.
-/

namespace SidecarProxy

namespace WebHost

/-- The four numbers of an address between dots. -/
def renderIpv4 (address : Nat) : String :=
  ".".intercalate ([3, 2, 1, 0].map fun i => toString (address / Nat.pow 256 i % 256))

/-- The lengths of the runs of zeros that begin at each group. -/
def zeroRuns : List Nat → List Nat
  | [] => []
  | g :: rest =>
    let runs := zeroRuns rest
    (if g = 0 then runs.headD 0 + 1 else 0) :: runs

/-- Groups in hexadecimal digits between colons. -/
def renderGroups (groups : List Nat) : String :=
  ":".intercalate (groups.map fun g => String.ofList (Nat.toDigits 16 g))

/-- The eight groups of an address. -/
def renderIpv6 (groups : List Nat) : String :=
  let runs := zeroRuns groups
  let longest := runs.foldl max 0
  if longest < 2 then renderGroups groups
  else
    let start := runs.idxOf longest
    renderGroups (groups.take start) ++ "::" ++ renderGroups (groups.drop (start + longest))

/-- A host in writing. -/
def render : WebHost → String
  | .domain name => name
  | .ipv4 address => renderIpv4 address
  | .ipv6 groups => "[" ++ renderIpv6 groups ++ "]"
  | .other text => text

end WebHost

namespace WebUrl

/-- The user in front of a host. -/
def renderUser (url : WebUrl) : String :=
  if url.username = "" && url.password = "" then ""
  else if url.password = "" then url.username ++ "@"
  else url.username ++ ":" ++ url.password ++ "@"

/-- The authority with its slashes, if there is one. -/
def renderAuthority (url : WebUrl) : String :=
  match url.host with
  | some host =>
    let number := match url.portNumber with
      | none => ""
      | some n => ":" ++ toString n
    "//" ++ url.renderUser ++ host.render ++ number
  | none => if url.scheme = "file" then "//" else ""

/-- A path in writing. -/
def renderPath : WebPath → String
  | .segments names => String.join (names.map ("/" ++ ·))
  | .other text => text

/-- A URL in writing. -/
def render (url : WebUrl) : String :=
  let query := match url.query with
    | none => ""
    | some q => "?" ++ q
  let fragment := match url.fragment with
    | none => ""
    | some f => "#" ++ f
  url.scheme ++ ":" ++ url.renderAuthority ++ renderPath url.path ++ query ++ fragment

end WebUrl
end SidecarProxy
