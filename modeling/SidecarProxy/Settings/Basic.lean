import SidecarProxy.Retry.Loop
import SidecarProxy.Route.Mount

/-!
# Settings

What can be set for a sidecar.  Every setting has a default; only the name and
the id of the local module have none that is of use.
-/

namespace SidecarProxy

/-- Bounds for fetching the first documents. -/
structure RetrySettings where
  /-- The most attempts, the first one included. -/
  maxAttempts : Nat := 10
  baseDelayMillis : Nat := 500
  maxDelayMillis : Nat := 30000
  maxElapsedSecs : Nat := 300
  deriving DecidableEq, Repr, Inhabited

/-- The policy that the settings describe; there is always a first attempt. -/
def RetrySettings.policy (s : RetrySettings) : Retry.Policy where
  maxAttempts := max 1 s.maxAttempts
  baseDelay := .ofMillis s.baseDelayMillis
  maxDelay := .ofMillis s.maxDelayMillis
  maxElapsed := .ofSecs s.maxElapsedSecs

/-- Where requests are received. -/
structure ListenerSettings where
  bindAddress : String := "0.0.0.0:8081"
  deriving DecidableEq, Repr, Inhabited

/-- The local module. -/
structure ModuleSettings where
  id : String := ""
  name : String := ""
  url : String := "http://localhost:8080"
  mount : Route.MountStrategy := .none
  deriving DecidableEq, Repr, Inhabited

/-- How the control plane is asked. -/
structure ControlPlaneSettings where
  url : String := "http://localhost:9130"
  requestTimeoutSecs : Nat := 10
  /-- The seconds between two refreshes; zero when only events refresh. -/
  refreshIntervalSecs : Nat := 0
  retry : RetrySettings := {}
  deriving DecidableEq, Repr, Inhabited

/-- Bounds of the cache of module tables. -/
structure CacheSettings where
  maxEntries : Nat := 250
  ttlSecs : Nat := 300
  deriving DecidableEq, Repr, Inhabited

/-- How routes are found. -/
structure RoutingSettings where
  /-- Whether what has no route goes to the gateway. -/
  forwardUnknown : Bool := false
  gatewayUrl : Option String := none
  /-- Whether modules that a request names are looked up in the control plane. -/
  dynamicDiscovery : Bool := false
  cache : CacheSettings := {}
  /-- The ids of the modules that are enabled for each tenant. -/
  entitlements : List (String × List String) := []
  deriving DecidableEq, Repr, Inhabited

/-- How requests are forwarded. -/
structure ProxySettings where
  requestTimeoutMillis : Nat := 60000
  /-- The frames of a body that are held between reading and writing. -/
  writeQueueFrames : Nat := 8
  deriving DecidableEq, Repr, Inhabited

/-- The format of log lines. -/
inductive LogFormat where
  | pretty
  | json
  deriving DecidableEq, Repr, Inhabited

namespace LogFormat

/-- The written name of a format. -/
def name : LogFormat → String
  | .pretty => "pretty"
  | .json => "json"

/-- The format of a written name. -/
def ofName? (s : String) : Option LogFormat :=
  if s = "pretty" then some .pretty
  else if s = "json" then some .json
  else none

end LogFormat

/-- What is logged and measured. -/
structure ObservabilitySettings where
  logLevel : String := "info"
  logFormat : LogFormat := .pretty
  metricsEnabled : Bool := false
  metricsAddress : String := "0.0.0.0:9090"
  deriving DecidableEq, Repr, Inhabited

/-- All settings of a sidecar. -/
structure Settings where
  listener : ListenerSettings := {}
  module : ModuleSettings := {}
  controlPlane : ControlPlaneSettings := {}
  routing : RoutingSettings := {}
  proxy : ProxySettings := {}
  observability : ObservabilitySettings := {}
  deriving DecidableEq, Repr, Inhabited

end SidecarProxy
