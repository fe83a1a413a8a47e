import SidecarProxy.Exchange.Failure
import SidecarProxy.Json.Basic
import SidecarProxy.Resolve.Failure

/-!
# Refusals

A request that no module answers is answered by the sidecar itself, with a
status and one error in JSON.  What the other side of the proxy said stays out
of the answer.
-/

namespace SidecarProxy

/-- An answer of the sidecar itself. -/
structure Refusal where
  status : Nat
  /-- The kind of the error. -/
  type : String
  /-- The kind of the error in small letters, in more detail. -/
  code : String
  message : String
  deriving DecidableEq, Repr

namespace Refusal

/-- The refusal of a request for which there is no route. -/
def routeNotFound (method path : String) : Refusal :=
  ⟨404, "RouteNotFound", "route_not_found",
    s!"Route is not found [method: {method}, path: {path}]"⟩

/-- The refusal of a request whose exchange failed. -/
def ofExchange : Exchange.Failure → Refusal
  | .invalidDestination url _ =>
    ⟨500, "InvalidDestination", "invalid_destination", s!"Invalid upstream destination: {url}"⟩
  | .unreachable url _ =>
    ⟨502, "UpstreamUnreachable", "upstream_unreachable", s!"Failed to proxy request to {url}"⟩
  | .timeout url after =>
    ⟨504, "UpstreamTimeout", "upstream_timeout",
      s!"Upstream {url} did not respond within {after.millis} ms"⟩
  | .locationUnknown moduleId =>
    ⟨502, "UpstreamUnreachable", "location_unknown", s!"Module {moduleId} has no known location"⟩

/-- The refusal of a request whose route could not be searched for. -/
def ofResolve : Resolve.Failure → Refusal
  | .blankHint =>
    ⟨400, "BadRequest", "blank_module_hint", "Module id header must not be blank"⟩
  | .unknownName name tenant =>
    ⟨404, "ModuleNotFound", "module_not_found",
      s!"Module {name} is not enabled for tenant {tenant}"⟩
  | .controlPlane f => ⟨502, "DiscoveryFailure", "discovery_failed", f.message⟩
  | .entitlements f => ⟨502, "DiscoveryFailure", "entitlements_failed", f.message⟩

/-- The type of the content of every refusal. -/
def contentType : String := "application/json"

/-- The content of a refusal. -/
def body (r : Refusal) : Json.Value :=
  .ofMembers [
    ("errors", .array [.ofMembers [("type", .ofText r.type), ("code", .ofText r.code),
      ("message", .ofText r.message)]]),
    ("total_records", .integer 1)]

end Refusal
end SidecarProxy
