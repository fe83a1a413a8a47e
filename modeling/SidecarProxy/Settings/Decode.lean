import SidecarProxy.Json.Record
import SidecarProxy.Settings.Basic

/-!
# Reading settings

Settings are read from a document of records.  What is not written takes its
default, and what is not known is passed over.
-/

namespace SidecarProxy
namespace Settings
namespace Decode

open Json Json.Record

/-- Whether a value says nothing: an empty list or an empty record. -/
def isVoid : Value → Bool
  | .array items => items.isEmpty
  | .object ms => ms.isEmpty
  | _ => false

/-- One of several names: a text, or a record with that name for its one member, which says nothing. -/
def choice {α : Type} (saysNothing : Value → Bool) (ofName : String → Option α) :
    Value → Option α
  | .string (some name) => ofName name
  | .object [(some name, payload)] => if saysNothing payload then ofName name else none
  | _ => none

/-- The lists of a record, by the names of its members. -/
def lists : Value → Option (List (String × List String))
  | .object ms =>
    ms.mapM fun m => do
      let name ← m.1
      return (name, ← list text m.2)
  | _ => none

/-- The bounds for fetching the first documents. -/
def retry (surplus : Surplus) (v : Value) : Option RetrySettings := do
  let d : RetrySettings := {}
  let ms ← members surplus
    ["max_attempts", "base_delay_ms", "max_delay_ms", "max_elapsed_secs"] v
  return {
    maxAttempts := ← member ms "max_attempts" (unsigned 32) d.maxAttempts
    baseDelayMillis := ← member ms "base_delay_ms" (unsigned 64) d.baseDelayMillis
    maxDelayMillis := ← member ms "max_delay_ms" (unsigned 64) d.maxDelayMillis
    maxElapsedSecs := ← member ms "max_elapsed_secs" (unsigned 64) d.maxElapsedSecs }

/-- Where requests are received. -/
def listener (surplus : Surplus) (v : Value) : Option ListenerSettings := do
  let d : ListenerSettings := {}
  let ms ← members surplus ["bind_address"] v
  return { bindAddress := ← member ms "bind_address" text d.bindAddress }

/-- The local module. -/
def module (surplus : Surplus) (v : Value) : Option ModuleSettings := do
  let d : ModuleSettings := {}
  let ms ← members surplus ["id", "name", "url", "path_prefix_strategy"] v
  return {
    id := ← member ms "id" text d.id
    name := ← member ms "name" text d.name
    url := ← member ms "url" text d.url
    mount := ← member ms "path_prefix_strategy" (choice isVoid Route.MountStrategy.ofName?) d.mount }

/-- How the control plane is asked. -/
def controlPlane (surplus : Surplus) (v : Value) : Option ControlPlaneSettings := do
  let d : ControlPlaneSettings := {}
  let ms ← members surplus
    ["url", "request_timeout_secs", "refresh_interval_secs", "bootstrap_retry"] v
  return {
    url := ← member ms "url" text d.url
    requestTimeoutSecs := ← member ms "request_timeout_secs" (unsigned 64) d.requestTimeoutSecs
    refreshIntervalSecs :=
      ← member ms "refresh_interval_secs" (unsigned 64) d.refreshIntervalSecs
    retry := ← member ms "bootstrap_retry" (retry surplus) d.retry }

/-- The bounds of the cache. -/
def cache (surplus : Surplus) (v : Value) : Option CacheSettings := do
  let d : CacheSettings := {}
  let ms ← members surplus ["max_entries", "ttl_secs"] v
  return {
    maxEntries := ← member ms "max_entries" (unsigned 64) d.maxEntries
    ttlSecs := ← member ms "ttl_secs" (unsigned 64) d.ttlSecs }

/-- How routes are found. -/
def routing (surplus : Surplus) (v : Value) : Option RoutingSettings := do
  let d : RoutingSettings := {}
  let ms ← members surplus
    ["forward_unknown_requests", "gateway_url", "dynamic_discovery_enabled", "discovery_cache",
      "entitlements"] v
  return {
    forwardUnknown := ← member ms "forward_unknown_requests" truth d.forwardUnknown
    gatewayUrl := ← member ms "gateway_url" optionalText d.gatewayUrl
    dynamicDiscovery := ← member ms "dynamic_discovery_enabled" truth d.dynamicDiscovery
    cache := ← member ms "discovery_cache" (cache surplus) d.cache
    entitlements := ← member ms "entitlements" lists d.entitlements }

/-- How requests are forwarded. -/
def proxy (surplus : Surplus) (v : Value) : Option ProxySettings := do
  let d : ProxySettings := {}
  let ms ← members surplus ["request_timeout_ms", "write_queue_frames"] v
  return {
    requestTimeoutMillis := ← member ms "request_timeout_ms" (unsigned 64) d.requestTimeoutMillis
    writeQueueFrames := ← member ms "write_queue_frames" (unsigned 64) d.writeQueueFrames }

/-- What is logged and measured. -/
def observability (surplus : Surplus) (v : Value) : Option ObservabilitySettings := do
  let d : ObservabilitySettings := {}
  let ms ← members surplus ["log_level", "log_format", "metrics_enabled", "metrics_address"] v
  return {
    logLevel := ← member ms "log_level" text d.logLevel
    logFormat := ← member ms "log_format" (choice isVoid LogFormat.ofName?) d.logFormat
    metricsEnabled := ← member ms "metrics_enabled" truth d.metricsEnabled
    metricsAddress := ← member ms "metrics_address" text d.metricsAddress }

/-- All settings of a sidecar. -/
def settings (surplus : Surplus) (v : Value) : Option Settings := do
  let d : Settings := {}
  let ms ← members surplus
    ["listener", "module", "control_plane", "routing", "proxy", "observability"] v
  return {
    listener := ← member ms "listener" (listener surplus) d.listener
    module := ← member ms "module" (module surplus) d.module
    controlPlane := ← member ms "control_plane" (controlPlane surplus) d.controlPlane
    routing := ← member ms "routing" (routing surplus) d.routing
    proxy := ← member ms "proxy" (proxy surplus) d.proxy
    observability := ← member ms "observability" (observability surplus) d.observability }

end Decode
end Settings
end SidecarProxy
