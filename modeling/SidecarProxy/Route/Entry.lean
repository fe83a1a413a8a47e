import SidecarProxy.Catalog.Basic
import SidecarProxy.Pattern.Basic

/-!
# Routing entries

An entry is one endpoint together with the module and the interface that offer
it.  Whether an entry takes a request depends on the method, the path and, for
an interface of several modules, on the module that the request names.
-/

namespace SidecarProxy
namespace Route

open Catalog

/-- The side of the sidecar on which a request travels. -/
inductive Direction where
  /-- From the platform to the local module. -/
  | ingress
  /-- From the local module to another one. -/
  | egress
  deriving DecidableEq, Repr, Inhabited

/-- The written name of a direction. -/
def Direction.name : Direction → String
  | .ingress => "ingress"
  | .egress => "egress"

/-- A route on which a request can be sent. -/
structure Entry where
  moduleId : String
  /-- The base URL of the module; missing as long as the module cannot be reached. -/
  location : Option String
  interfaceId : String
  kind : InterfaceKind
  endpoint : Endpoint
  deriving DecidableEq, Repr, Inhabited

/-- What a lookup asks for. -/
structure Query where
  method : String
  path : String
  /-- The module that the request names. -/
  hint : Option String := none
  deriving DecidableEq, Repr, Inhabited

/-- The module id of the gateway when the request names no module. -/
def gatewayId : String := "gateway"

/-- The entry that sends any request to the gateway. -/
def Entry.gateway (location : String) (hint : Option String) : Entry where
  moduleId := hint.getD gatewayId
  location := some location
  interfaceId := gatewayId
  kind := .regular
  endpoint := { pathPattern := some "/*", methods := ["*"] }

/-- Whether the entry belongs to an interface of several modules. -/
def Entry.isMultiple (e : Entry) : Bool :=
  e.kind = .multiple

/-- Whether the endpoint's pattern, or else its literal path, covers a path. -/
def coversPath (m : Matcher) (e : Endpoint) (path : String) : Bool :=
  match e.pathPattern, e.path with
  | some pattern, _ => m.matches pattern path
  | none, some literal => literal.toList.isPrefixOf path.toList
  | none, none => false

/-- Whether an entry takes a request. -/
def Entry.takes (e : Entry) (m : Matcher) (q : Query) : Bool :=
  e.endpoint.allows q.method && coversPath m e.endpoint q.path &&
    (!e.isMultiple || q.hint == some e.moduleId)

end Route
end SidecarProxy
