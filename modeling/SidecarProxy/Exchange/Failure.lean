import SidecarProxy.Span

/-!
# Failures of an exchange

Why a request that has a route was not answered by its module.
-/

namespace SidecarProxy
namespace Exchange

/-- Why a request was not answered by its module. -/
inductive Failure where
  /-- The URL of the module cannot be dialled. -/
  | invalidDestination (url reason : String)
  | unreachable (url cause : String)
  /-- No answer began in time. -/
  | timeout (url : String) (after : Span)
  /-- The route has no location. -/
  | locationUnknown (moduleId : String)
  deriving DecidableEq, Repr

/-- The wording of a failure. -/
def Failure.message : Failure → String
  | .invalidDestination url reason => s!"Invalid destination '{url}': {reason}"
  | .unreachable url cause => s!"Upstream '{url}' unreachable: {cause}"
  | .timeout url after => s!"Upstream '{url}' did not respond within {after.render}"
  | .locationUnknown moduleId => s!"No location known for module '{moduleId}'"

end Exchange
end SidecarProxy
