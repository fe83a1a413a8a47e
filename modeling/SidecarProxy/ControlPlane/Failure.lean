import SidecarProxy.Route.Table

/-!
# Failures of the control plane

What can go wrong between asking the control plane about a module and having its
compiled table.
-/

namespace SidecarProxy
namespace ControlPlane

/-- Why the control plane gave no usable answer. -/
inductive Failure where
  /-- No request can be sent to this URL. -/
  | invalidUrl (url : String)
  /-- The request did not come through, or the answer was no document. -/
  | transport (detail : String)
  /-- The answer had a status that is no success. -/
  | unsuccessful (url : String) (status : Nat)
  /-- The document does not compile. -/
  | invalidModule (moduleId reason : String)
  deriving DecidableEq, Repr

/-- The failure of a document that was rejected. -/
def Failure.ofRejection (e : Route.ConfigError) : Failure :=
  .invalidModule e.moduleId e.fault.message

/-- The wording of a failure. -/
def Failure.message : Failure → String
  | .invalidUrl url => s!"Invalid control plane URL '{url}'"
  | .transport detail => s!"Control plane request failed: {detail}"
  | .unsuccessful url status => s!"Control plane returned {status} for {url}"
  | .invalidModule moduleId reason => Route.rejectionMessage moduleId reason

end ControlPlane
end SidecarProxy
