import SidecarProxy.Json.Basic
import SidecarProxy.Settings.Basic

/-!
# Writing settings

All settings are written, those at their default included.
-/

namespace SidecarProxy
namespace Settings
namespace Encode

open Json

/-- A number. -/
def number (n : Nat) : Value := .integer n

/-- The bounds for fetching the first documents. -/
def retry (s : RetrySettings) : Value :=
  .ofMembers [("max_attempts", number s.maxAttempts),
    ("base_delay_ms", number s.baseDelayMillis), ("max_delay_ms", number s.maxDelayMillis),
    ("max_elapsed_secs", number s.maxElapsedSecs)]

/-- The local module. -/
def module (s : ModuleSettings) : Value :=
  .ofMembers [("id", .ofText s.id), ("name", .ofText s.name), ("url", .ofText s.url),
    ("path_prefix_strategy", .ofText s.mount.name)]

/-- How the control plane is asked. -/
def controlPlane (s : ControlPlaneSettings) : Value :=
  .ofMembers [("url", .ofText s.url), ("request_timeout_secs", number s.requestTimeoutSecs),
    ("refresh_interval_secs", number s.refreshIntervalSecs), ("bootstrap_retry", retry s.retry)]

/-- How routes are found. -/
def routing (s : RoutingSettings) : Value :=
  .ofMembers [("forward_unknown_requests", .bool s.forwardUnknown),
    ("gateway_url", .ofText? s.gatewayUrl),
    ("dynamic_discovery_enabled", .bool s.dynamicDiscovery),
    ("discovery_cache", .ofMembers [("max_entries", number s.cache.maxEntries),
      ("ttl_secs", number s.cache.ttlSecs)]),
    ("entitlements", .ofMembers (s.entitlements.map fun e => (e.1, .ofTexts e.2)))]

/-- How requests are forwarded. -/
def proxy (s : ProxySettings) : Value :=
  .ofMembers [("request_timeout_ms", number s.requestTimeoutMillis),
    ("write_queue_frames", number s.writeQueueFrames)]

/-- What is logged and measured. -/
def observability (s : ObservabilitySettings) : Value :=
  .ofMembers [("log_level", .ofText s.logLevel), ("log_format", .ofText s.logFormat.name),
    ("metrics_enabled", .bool s.metricsEnabled), ("metrics_address", .ofText s.metricsAddress)]

/-- All settings of a sidecar. -/
def settings (s : Settings) : Value :=
  .ofMembers [("listener", .ofMembers [("bind_address", .ofText s.listener.bindAddress)]),
    ("module", module s.module), ("control_plane", controlPlane s.controlPlane),
    ("routing", routing s.routing), ("proxy", proxy s.proxy),
    ("observability", observability s.observability)]

end Encode
end Settings
end SidecarProxy
