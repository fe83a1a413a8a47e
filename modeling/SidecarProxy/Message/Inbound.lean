import SidecarProxy.Message.Correlation
import SidecarProxy.Message.Signature
import SidecarProxy.Uri.Basic

/-!
# Inbound requests

What routing looks at in a request: its method and URI, and the fields that name
the tenant, the module that is meant and the chain of ids.
-/

namespace SidecarProxy
namespace Message

/-- The name of the field with the tenant. -/
def tenantName : String := "x-okapi-tenant"

/-- The name of the field with the module that is meant. -/
def moduleIdName : String := "x-okapi-module-id"

/-- What routing looks at in a request. -/
structure Inbound where
  method : String
  path : String
  query : Option String := none
  tenant : Option String := none
  /-- The module that is meant, as it was sent; it may be blank. -/
  moduleHint : Option String := none
  requestId : Option String := none
  /-- Whether the request carries this sidecar's own signature. -/
  fromSelf : Bool := false
  deriving DecidableEq, Repr, Inhabited

namespace Inbound

/-- The view of a request with the given parts. -/
def ofParts (method : String) (uri : Uri) (hs : Headers) (signature : Signature) : Inbound where
  method := method
  path := uri.path
  query := uri.query
  tenant := hs.text? tenantName
  moduleHint := hs.text? moduleIdName
  requestId := hs.text? requestIdName
  fromSelf := signature.signed hs

/-- The module that is meant, trimmed, unless it is blank. -/
def hint (r : Inbound) : Option String :=
  (r.moduleHint.map Text.trim).filter (· != "")

/-- A path with the query of the request, as it is sent on. -/
def withQuery (r : Inbound) (path : String) : String :=
  match r.query with
  | none => path
  | some q => path ++ "?" ++ q

end Inbound
end Message
end SidecarProxy
