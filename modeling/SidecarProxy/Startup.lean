import SidecarProxy.Dispatch.Sidecar
import SidecarProxy.Refresh.Loop
import SidecarProxy.Settings.Basic

/-!
# Starting a sidecar

A sidecar starts with the first bootstrap that it can fetch.  It does not serve
before both tables are published, and so a bootstrap that cannot be fetched or
compiled ends the start.
-/

namespace SidecarProxy

open Dispatch Exchange Message Resolve Route

namespace Settings

/-- How routes are searched for: the gateway takes the rest only if that is asked for. -/
def resolver (s : Settings) : Resolver where
  mount := .ofName s.module.name s.module.mount
  gateway := if s.routing.forwardUnknown then s.routing.gatewayUrl else none
  dynamic := s.routing.dynamicDiscovery

/-- The milliseconds between two refreshes, if there are any. -/
def refreshMillis (s : Settings) : Option Nat :=
  if s.controlPlane.refreshIntervalSecs = 0 then none
  else some (s.controlPlane.refreshIntervalSecs * 1000)

/-- The plan of the loop that refreshes the tables. -/
def refreshPlan {σ : Type} (s : Settings) (w : Retry.Surroundings) (ask : Refresh.Source σ) :
    Refresh.LoopPlan σ where
  moduleId := s.module.id
  policy := s.controlPlane.retry.policy
  surroundings := w
  ask := ask
  interval := s.refreshMillis

/-- Fetches the first bootstrap and publishes its tables. -/
def bootstrap {σ : Type} (s : Settings) (moduleUrl : Option String) (w : Retry.Surroundings)
    (ask : Refresh.Source σ) (source : σ) : Refresh.Fetched σ :=
  Refresh.fetch s.controlPlane.retry.policy w ask s.module.id .full { moduleUrl := moduleUrl }
    source

/-- The sidecar that serves from published tables; `source` is what the cache asks. -/
def sidecar {τ : Type} (s : Settings) (signature : Signature) (published : Published)
    (source : τ) : Sidecar τ where
  lookups :=
    { resolver := s.resolver
      entitled := .ofList s.routing.entitlements
      published := published
      cache := { limits := .ofSettings s.routing.cache }
      source := source }
  forwarder := .ofSettings s.proxy signature

end Settings

/-- A start that has come to its end. -/
structure Startup (σ τ : Type) where
  fetched : Refresh.Fetched σ
  sidecar : Except Refresh.BootstrapFailure (Sidecar τ)

/-- Starts a sidecar: the local module has the location that the settings give. -/
def Settings.start {σ τ : Type} (s : Settings) (signature : Signature) (w : Retry.Surroundings)
    (ask : Refresh.Source σ) (source : σ) (modules : τ) : Startup σ τ :=
  let fetched := s.bootstrap (some s.module.url) w ask source
  ⟨fetched, fetched.outcome.map fun () => s.sidecar signature fetched.published modules⟩

end SidecarProxy
