import SidecarProxy.Uri.Reader

/-!
# Locations of modules

A location is the base URL under which a module is reached.  Only absolute URLs
of the scheme `http` with a host can be dialled; tables and exchanges share this
check.
-/

namespace SidecarProxy
namespace Route

/-- Why text is not a location. -/
inductive LocationError where
  /-- The text is no URI. -/
  | malformed (why : Uri.ParseError)
  /-- There is no host. -/
  | missingHost
  /-- The scheme cannot be dialled. -/
  | unsupportedScheme (scheme : String)
  /-- There is no scheme. -/
  | notAbsolute
  deriving DecidableEq, Repr

/-- The wording of a refusal. -/
def LocationError.message : LocationError → String
  | .malformed why => why.message
  | .missingHost => "missing host"
  | .unsupportedScheme scheme => s!"unsupported scheme '{scheme}'"
  | .notAbsolute => "not an absolute URL"

/-- Reads the location of a module. -/
def parseLocation (text : String) : Except LocationError Uri :=
  match Uri.parse text with
  | .error why => .error (.malformed why)
  | .ok uri =>
    match uri.scheme with
    | none => .error .notAbsolute
    | some scheme =>
      if scheme ≠ "http" then .error (.unsupportedScheme scheme)
      else if uri.host = "" then .error .missingHost
      else .ok uri

end Route
end SidecarProxy
