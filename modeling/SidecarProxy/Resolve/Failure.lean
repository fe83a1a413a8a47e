import SidecarProxy.ControlPlane.Failure

/-!
# Failures of routing

Why the search for a route ended without telling whether there is one.
-/

namespace SidecarProxy
namespace Resolve

/-- Why the modules of a tenant are not known. -/
structure EntitlementFailure where
  tenant : String
  reason : String
  deriving DecidableEq, Repr

/-- The wording of a failure. -/
def EntitlementFailure.message (e : EntitlementFailure) : String :=
  s!"Entitlement lookup failed for tenant '{e.tenant}': {e.reason}"

/-- Why the search for a route ended. -/
inductive Failure where
  /-- The request names a module, but the name is blank. -/
  | blankHint
  /-- No module of that name is enabled for the tenant. -/
  | unknownName (name tenant : String)
  | controlPlane (failure : ControlPlane.Failure)
  | entitlements (failure : EntitlementFailure)
  deriving DecidableEq, Repr

/-- The wording of a failure. -/
def Failure.message : Failure → String
  | .blankHint => "Module hint header is blank"
  | .unknownName name tenant => s!"Module '{name}' is not enabled for tenant '{tenant}'"
  | .controlPlane f => f.message
  | .entitlements f => f.message

end Resolve
end SidecarProxy
