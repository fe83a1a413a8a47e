import SidecarProxy.ControlPlane.Failure
import SidecarProxy.Refresh.Event
import SidecarProxy.Retry.Loop
import SidecarProxy.Route.Published

/-!
# Fetching the documents of the local module

The bootstrap of the local module is fetched with repeated attempts and then
compiled.  A fetch that is given up and a document that is rejected leave the
published tables as they are.
-/

namespace SidecarProxy
namespace Refresh

open Catalog Route

/-- Whoever is asked for bootstraps: the answer to the next request for a module, and what it
answers afterwards. -/
abbrev Source (σ : Type) := String → σ → Except ControlPlane.Failure Bootstrap × σ

/-- The tables that an event compiles from a bootstrap. -/
def Event.update (e : Event) (b : Bootstrap) : Update :=
  match e with
  | .moduleChanged => .ingress b.module
  | .dependenciesChanged => .egress b.requiredModules
  | .full => .bootstrap b

/-- Why the first tables could not be published. -/
inductive BootstrapFailure where
  | exhausted (failure : Retry.Exhausted ControlPlane.Failure)
  | rejected (rejection : ConfigError)
  /-- A sum of spans did not fit a clock. -/
  | overflow
  deriving DecidableEq, Repr

/-- The name of the first fetch. -/
def bootstrapOperation : String := "module bootstrap"

/-- The wording of a failure. -/
def BootstrapFailure.message : BootstrapFailure → String
  | .exhausted e =>
    s!"Initial route bootstrap failed: {e.message bootstrapOperation ControlPlane.Failure.message}"
  | .rejected e => s!"Initial bootstrap rejected: {e.message}"
  | .overflow => "overflow when adding durations"

/-- The tables after a fetch, and what it led to. -/
structure Fetched (σ : Type) where
  published : Published
  outcome : Except BootstrapFailure Unit
  events : List Metrics.Event
  source : σ
  /-- The requests that were sent. -/
  calls : Nat

/-- Fetches a bootstrap within a policy and publishes the tables that an event names. -/
def fetch {σ : Type} (policy : Retry.Policy) (w : Retry.Surroundings) (ask : Source σ)
    (moduleId : String) (e : Event) (p : Published) (s : σ) : Fetched σ :=
  let run := Retry.run policy w (ask moduleId) s
  match run.ending with
  | .overflow => ⟨p, .error .overflow, [], run.state, run.calls⟩
  | .exhausted failure => ⟨p, .error (.exhausted failure), [], run.state, run.calls⟩
  | .succeeded b =>
    let r := p.update (e.update b)
    ⟨r.published, r.outcome.mapError .rejected, r.events, run.state, run.calls⟩

/-- Whether a fetch put a table in place of another. -/
def Fetched.replaced {σ : Type} (f : Fetched σ) : Bool :=
  f.outcome.isOk

end Refresh
end SidecarProxy
